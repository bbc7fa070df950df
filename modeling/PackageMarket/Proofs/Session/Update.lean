import PackageMarket.Proofs.Market.View
import PackageMarket.Proofs.Session.Confirmation
import PackageMarket.Proofs.Session.Cursor
import PackageMarket.Proofs.Session.Drafts

set_option autoImplicit false

namespace PackageMarket

open Market Json

/-- What an update says of a package: six of its fields, the price with all of its own and null for
what is absent, all in the order of their names. -/
def Market.Offer.update (o : Offer) : Value :=
  .object
    [("description", .string o.description), ("imageLink", .string o.imageLink),
     ("linearId", o.linearId), ("name", .string o.name),
     ("poPrice", .object
       [("description", .ofOption .string o.poPrice.description),
        ("href", .ofOption .string o.poPrice.href), ("id", .ofOption .string o.poPrice.id),
        ("isBundle", .ofOption .bool o.poPrice.isBundle),
        ("lastUpdate", .ofOption .string o.poPrice.lastUpdate),
        ("lifecycleStatus", .ofOption .string o.poPrice.lifecycleStatus),
        ("name", .ofOption .string o.poPrice.name),
        ("percentage", .ofOption .float o.poPrice.percentage),
        ("price", .object [("unit", .string o.price.unit), ("value", .float o.price.value)]),
        ("priceType", .ofOption .string o.poPrice.priceType),
        ("recurringChargePeriodLength", .ofOption .int o.poPrice.recurringChargePeriodLength),
        ("recurringChargePeriodType", .ofOption .string o.poPrice.recurringChargePeriodType),
        ("unitOfMeasure", .ofOption (fun v => v) o.poPrice.unitOfMeasure),
        ("validFor", .ofOption (fun v => v) o.poPrice.validFor),
        ("version", .ofOption .string o.poPrice.version)]),
     ("version", .string o.version)]

namespace Dialog

variable {o : Offer} {depth : Nat}

end Dialog

namespace Session

variable {s : State} {o : Offer} {k k' : Key}

end Session

end PackageMarket
