import PackageMarket.Files.Disk

set_option autoImplicit false

/-!
Paths that keep what is written to them. On a disk these are the paths of files, and of new files
with a name that the disk takes; everything else, such as a directory or what swallows its input,
does not.
-/

namespace PackageMarket.Files

namespace Access

variable {σ : Type} (files : Access (StateM σ)) (p : Path)

def withDirectories (s : σ) : σ :=
  match p.parent? with
  | none => s
  | some dir => ((files.makeDirectories dir).run s).2

/-- A content is accepted, and is read afterwards. -/
structure Stores (content : ByteArray) (s : σ) : Prop where
  write : ((files.write p content).run s).1 = true
  isPresent : ((files.isPresent p).run ((files.write p content).run s).2).1 = true
  read : ((files.read p).run ((files.isPresent p).run ((files.write p content).run s).2).2).1 =
    some content

/-- The directories of a path can be made, and then the path stores any content. -/
structure Keeps (s : σ) : Prop where
  makeDirectories : ∀ dir ∈ p.parent?, ((files.makeDirectories dir).run s).1 = true
  stores : ∀ content : ByteArray, files.Stores p content (files.withDirectories p s)

end Access

namespace Disk

variable {d : Disk} {p : Path} {place : Place}

theorem entry?_put_self {e : Entry} (h : place ≠ []) :
    Disk.entry? (d.put place e) place = some e := by
  simp [put, entry?, h]

theorem entry?_put_of_ne {other : Place} {e : Entry} (h : other ≠ place) :
    Disk.entry? (d.put place e) other = d.entry? other := by
  have hfind : (d.entries.filter (·.1 != place)).find? (·.1 = other) =
      d.entries.find? (·.1 = other) := by
    rw [List.find?_filter]
    congr 1
    funext entry
    by_cases ho : entry.1 = other
    · simp [ho, h]
    · simp [ho]
  simp only [put, entry?, List.find?_cons, decide_eq_false (Ne.symm h), hfind]

/-- No way leads through what is not a directory. -/
theorem step_put {e : Entry} (hplace : d.entry? place ≠ some .directory) (he : e ≠ .directory) :
    (d.put place e).step = d.step := by
  funext here name
  by_cases hhere : here = place
  · have hne : place ≠ [] := by
      rintro rfl
      exact hplace rfl
    have hnew : Disk.entry? (d.put place e) place ≠ some .directory := by
      rw [entry?_put_self hne]
      exact fun h => he (Option.some.inj h)
    simp [step, hhere]
  · simp only [step, entry?_put_of_ne hhere]

theorem place?_put {e : Entry} (hplace : d.entry? place ≠ some .directory) (he : e ≠ .directory) :
    (d.put place e).place? p = d.place? p := by
  simp only [place?, step_put hplace he]

/-- A file, or a new one under a name that the disk takes. -/
def IsWritable (d : Disk) (place : Place) : Prop :=
  match d.entry? place with
  | none => place.getLast?.any isName = true
  | some (.file _) => True
  | some _ => False

theorem update_of_isWritable (hp : d.place? p = some place) (h : d.IsWritable place)
    (content : ByteArray) : d.update p (fun _ => content) = some (d.put place (.file content)) := by
  unfold IsWritable at h
  simp only [update, hp, bind, Option.bind]
  split <;> simp_all

theorem content?_put (hp : d.place? p = some place) (h : d.IsWritable place) (content : ByteArray) :
    (d.put place (.file content)).content? p = some content := by
  have hplace : d.entry? place ≠ some .directory := by
    intro hdirectory
    simp [IsWritable, hdirectory] at h
  have hne : place ≠ [] := by
    rintro rfl
    exact hplace rfl
  have hfile : Entry.file content ≠ .directory := nofun
  simp only [content?, place?_put hplace hfile, hp, entry?_put_self hne, bind, Option.bind]

theorem isPresent_of_content? {content : ByteArray} (h : d.content? p = some content) :
    ((d.place? p).bind d.entry?).isSome := by
  cases hplace : d.place? p with
  | none => simp [content?, hplace] at h
  | some there =>
    cases hentry : d.entry? there with
    | none => simp [content?, hplace, hentry] at h
    | some e => simp [hentry]

theorem stores (hp : d.place? p = some place) (h : d.IsWritable place) (content : ByteArray) :
    files.Stores p content d := by
  have hwrite : (files.write p content).run d = (true, d.put place (.file content)) := by
    simp only [files, attempt, update_of_isWritable hp h, StateT.run]
  have hcontent := content?_put hp h content
  constructor
  · rw [hwrite]
  · rw [hwrite]
    exact isPresent_of_content? hcontent
  · rw [hwrite]
    exact hcontent

/-- Once its directories are made, a path that leads to a file, old or new,
keeps what is written to it. -/
theorem keeps (hmade : ∀ dir ∈ p.parent?, (d.makeDirectories dir).2 = true)
    (hp : (files.withDirectories p d).place? p = some place)
    (h : (files.withDirectories p d).IsWritable place) : files.Keeps p d where
  makeDirectories := hmade
  stores := stores hp h

end Disk
end PackageMarket.Files
