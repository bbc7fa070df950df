import PackageMarket.Files.Disk
import PackageMarket.Main
import PackageMarket.Proofs.Decimal.Numeral
import PackageMarket.Proofs.Dialog.Message
import PackageMarket.Proofs.Form.Complaint
import PackageMarket.Proofs.Form.Lines
import PackageMarket.Proofs.Form.Paste
import PackageMarket.Proofs.Form.Tape
import PackageMarket.Proofs.Form.Words
import PackageMarket.Proofs.Launch.Resolved
import PackageMarket.Proofs.Market.Identity
import PackageMarket.Proofs.Market.Members
import PackageMarket.Proofs.Screen.Dialog
import PackageMarket.Proofs.Screen.EditorCursor
import PackageMarket.Proofs.Screen.FormCursor
import PackageMarket.Proofs.Session.Confirmation
import PackageMarket.Proofs.Session.Cursor
import PackageMarket.Proofs.Session.Display
import PackageMarket.Proofs.Session.Drafts
import PackageMarket.Proofs.Session.Drawing
import PackageMarket.Proofs.Session.Enter
import PackageMarket.Proofs.Session.Fields
import PackageMarket.Proofs.Session.Modal
import PackageMarket.Proofs.Session.Refresh
import PackageMarket.Proofs.Session.Request
import PackageMarket.Proofs.Session.Scrolling
import PackageMarket.Proofs.Session.Start
import PackageMarket.Proofs.Session.Update
import PackageMarket.Proofs.Session.Waiting
import PackageMarket.Proofs.Settings.Store
import PackageMarket.Proofs.Text.Position
import PackageMarket.Screen.Draw
import PackageMarket.Session.Step
import PackageMarket.Web.Client
