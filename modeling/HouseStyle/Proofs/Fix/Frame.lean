import HouseStyle.Proofs.FileTree.Listing
import HouseStyle.Proofs.Fix.ByteExact

/-!
# A run depends on its own file

In a tree without links, a run on a plain path (`Path.IsPlain`) leaves every other plain path what it was, and
what it gives depends on its own file only.

Main definitions:
* `Fix.SameAt`: two trees have the same where a path leads.
* `Fix.CanWrite`, `Fix.alters`, `Fix.diffOf`: a run on a file alone is not stopped by the file system,
  leaves other bytes in the file, and the diff it tells.

Main results:
* `Fix.tree_run_dry`: a dry run changes nothing.
* `Fix.sameAt_run_of_ne`: a run leaves other files alone.
* `Fix.run_congr`, `Fix.alone_congr`: a run depends on its own file only.
* `Fix.outcome_cases`: what a run tells, by what a run on the file alone gives.
-/

namespace HouseStyle

namespace Fix

variable (registry : Registry) (c : Config) (cwd : Path)

/-! ## Runs on different files -/

/-- A path leads to a file, or it does not. -/
theorem file_or_no_file (tree : FileTree) (p : Path) :
    (∃ names b, tree.locate cwd p = .ok (.file names b)) ∨
    ∀ names b, tree.locate cwd p ≠ .ok (.file names b) :=
  (Classical.em _).imp_right fun h names b hlocate => h ⟨names, b, hlocate⟩

variable {cwd} in
/-- A run on a path that leads to no file does nothing. -/
theorem run_of_no_file {tree : FileTree} {p : Path}
    (h : ∀ names b, tree.locate cwd p ≠ .ok (.file names b)) (dryRun : Bool) :
    (run registry c dryRun cwd tree p).outcome = .ok { path := p } ∧
    (run registry c dryRun cwd tree p).tree = tree := by
  unfold run FileTree.fileAt
  cases hlocate : tree.locate cwd p with
  | error e => exact ⟨rfl, rfl⟩
  | ok place =>
    cases place with
    | folder names => exact ⟨rfl, rfl⟩
    | file names b => exact absurd hlocate (h names b)

/-- A dry run changes nothing, whatever the tree is. -/
theorem tree_run_dry (tree : FileTree) (p : Path) : (run registry c true cwd tree p).tree = tree := by
  rcases file_or_no_file cwd tree p with ⟨names, b, hlocate⟩ | hno
  · exact (run_of_locate registry c hlocate).2.1
  · exact (run_of_no_file registry c hno true).2

/-- Two trees have the same where a path leads, and writing fails for the same files. -/
structure SameAt (tree tree' : FileTree) (p : Path) : Prop where
  place : tree'.locate cwd p = tree.locate cwd p
  bytes : tree'.bytes? p.names = tree.bytes? p.names
  faults : tree'.faults = tree.faults

variable {cwd} in
theorem SameAt.trans {tree₁ tree₂ tree₃ : FileTree} {p : Path} (h₁ : SameAt cwd tree₁ tree₂ p)
    (h₂ : SameAt cwd tree₂ tree₃ p) : SameAt cwd tree₁ tree₃ p :=
  ⟨h₂.place.trans h₁.place, h₂.bytes.trans h₁.bytes, h₂.faults.trans h₁.faults⟩

section Plain

variable {tree : FileTree} (hlinks : tree.Unlinked) {p : Path} (hp : p.IsPlain)
include hlinks hp

/-- A plain path leads to the file of its names, or to no file. -/
theorem named_file_or_no_file :
    (∃ b, tree.locate cwd p = .ok (.file p.names b)) ∨
    ∀ names b, tree.locate cwd p ≠ .ok (.file names b) := by
  refine (file_or_no_file cwd tree p).imp_left ?_
  rintro ⟨names, b, hlocate⟩
  obtain rfl := FileTree.names_of_locate_plain hlinks.symbolic hp hlocate
  exact ⟨b, hlocate⟩

/-- A run on a plain path gives the file of its names other bytes, or changes nothing. -/
theorem tree_run_cases (dryRun : Bool) :
    (run registry c dryRun cwd tree p).tree = tree ∨
    ∃ b, (run registry c dryRun cwd tree p).tree = tree.withBytes p.names b := by
  rcases named_file_or_no_file cwd hlinks hp with ⟨b, hlocate⟩ | hno
  · obtain ⟨-, hdry, hreal, -⟩ := run_of_locate registry c hlocate
    cases dryRun with
    | true => exact .inl hdry
    | false => exact hreal ▸ writing_cases registry c p tree p.names b
  · exact .inl (run_of_no_file registry c hno dryRun).2

theorem unlinked_run (dryRun : Bool) : (run registry c dryRun cwd tree p).tree.Unlinked := by
  rcases tree_run_cases registry c cwd hlinks hp dryRun with h | ⟨b, h⟩ <;> rw [h]
  · exact hlinks
  · exact ⟨(FileTree.links_withBytes ..).trans hlinks.symbolic,
      (FileTree.hardLinks_withBytes ..).trans hlinks.hard⟩

theorem folders_run (dryRun : Bool) :
    (run registry c dryRun cwd tree p).tree.folders = tree.folders := by
  rcases tree_run_cases registry c cwd hlinks hp dryRun with h | ⟨b, h⟩
  · rw [h]
  · rw [h, FileTree.folders_withBytes]

theorem bytes?_run_of_ne (dryRun : Bool) (names : List Text) (hne : names ≠ p.names) :
    (run registry c dryRun cwd tree p).tree.bytes? names = tree.bytes? names := by
  rcases tree_run_cases registry c cwd hlinks hp dryRun with h | ⟨b, h⟩
  · rw [h]
  · rw [h, FileTree.bytes?_withBytes, if_neg (mt (FileTree.mem_namesOf_iff hlinks.hard).mp hne)]

/-- A run leaves every other plain path what it was. -/
theorem sameAt_run_of_ne (dryRun : Bool) (q : Path) (hq : q.IsPlain) (hne : q.names ≠ p.names) :
    SameAt cwd tree (run registry c dryRun cwd tree p).tree q := by
  have hbytes := bytes?_run_of_ne registry c cwd hlinks hp dryRun q.names hne
  rcases tree_run_cases registry c cwd hlinks hp dryRun with h | ⟨b, h⟩
  · rw [h]
    exact ⟨rfl, rfl, rfl⟩
  · refine ⟨?_, hbytes, by rw [h, FileTree.faults_withBytes]⟩
    rw [h, FileTree.locate_withBytes]
    cases hlocate : tree.locate cwd q with
    | error e => rfl
    | ok place =>
      cases place with
      | folder names => rfl
      | file names b' =>
        obtain rfl := FileTree.names_of_locate_plain hlinks.symbolic hq hlocate
        simp [Except.map, FileTree.Place.withBytes, FileTree.mem_namesOf_iff hlinks.hard, hne]

end Plain

/-! ## Runs on the same file -/

/-- What comes of writing depends on the bytes of the file and on the files that cannot be written. -/
theorem writing_congr {tree tree' : FileTree} {names : List Text}
    (hbytes : tree'.bytes? names = tree.bytes? names) (hfaults : tree'.faults = tree.faults)
    (p : Path) (b : Bytes) :
    (writing registry c p tree' names b).2 = (writing registry c p tree names b).2 ∧
    (writing registry c p tree' names b).1.bytes? names =
      (writing registry c p tree names b).1.bytes? names := by
  have hwith : ∀ b', (tree'.withBytes names b').bytes? names = (tree.withBytes names b').bytes? names := by
    intro b'
    rw [FileTree.bytes?_withBytes, FileTree.bytes?_withBytes, hbytes,
      if_pos (tree'.mem_namesOf_self names), if_pos (tree.mem_namesOf_self names)]
  unfold writing FileTree.write
  rw [hfaults]
  split_ifs
  · exact ⟨rfl, hbytes⟩
  · cases tree.faults.lookup names with
    | none => exact ⟨rfl, hwith _⟩
    | some fault =>
      cases fault with
      | denied => exact ⟨rfl, hbytes⟩
      | full space => simp only; split_ifs <;> exact ⟨rfl, hwith _⟩

variable {cwd} in
/-- A run depends on its own file only. -/
theorem run_congr {tree tree' : FileTree} (hlinks : tree.Unlinked) {p : Path} (hp : p.IsPlain)
    (h : SameAt cwd tree tree' p) :
    (∀ dryRun, (run registry c dryRun cwd tree' p).outcome = (run registry c dryRun cwd tree p).outcome) ∧
    (run registry c false cwd tree' p).tree.bytes? p.names =
      (run registry c false cwd tree p).tree.bytes? p.names := by
  rcases named_file_or_no_file cwd hlinks hp with ⟨b, hfile⟩ | hno
  · obtain ⟨hdry, -, htree, hreal⟩ := run_of_locate registry c hfile
    obtain ⟨hdry', -, htree', hreal'⟩ := run_of_locate registry c (h.place.trans hfile)
    obtain ⟨hfault, hleft⟩ := writing_congr registry c h.bytes h.faults p b
    refine ⟨Bool.forall_bool.mpr ⟨?_, hdry'.trans hdry.symm⟩, ?_⟩
    · rw [hreal', hreal, hfault]
    · rw [htree', htree, hleft]
  · have hno' : ∀ names b, tree'.locate cwd p ≠ .ok (.file names b) := h.place.symm ▸ hno
    refine ⟨fun dryRun => ?_, ?_⟩
    · rw [(run_of_no_file registry c hno' dryRun).1, (run_of_no_file registry c hno dryRun).1]
    · rw [(run_of_no_file registry c hno' false).2, (run_of_no_file registry c hno false).2, h.bytes]

/-- A run on the file alone is not stopped by the file system. -/
def CanWrite (tree : FileTree) (p : Path) : Prop :=
  ∀ fault, (run registry c false cwd tree p).outcome ≠ .error (.unwritten fault)

/-- Then a run and a dry run tell the same, and the run leaves what fixing leaves. -/
theorem CanWrite.run_eq {tree : FileTree} {p : Path} (h : CanWrite registry c cwd tree p)
    {names : List Text} {bytes : Bytes} (hfile : tree.locate cwd p = .ok (.file names bytes)) :
    (∀ dryRun, (run registry c dryRun cwd tree p).outcome = verdict registry c p bytes) ∧
    (run registry c false cwd tree p).tree.bytes? names = some (left registry c p bytes) :=
  run_of_writing registry c hfile ((writing_snd_eq_none_iff registry c hfile).mpr h)

/-- A dry run is not stopped by it either. -/
theorem CanWrite.outcome_ne {tree : FileTree} {p : Path} (h : CanWrite registry c cwd tree p)
    (dryRun : Bool) (fault : WriteFault) :
    (run registry c dryRun cwd tree p).outcome ≠ .error (.unwritten fault) := by
  rcases file_or_no_file cwd tree p with ⟨names, b, hlocate⟩ | hno
  · rw [(h.run_eq registry c cwd hlocate).1 dryRun]
    exact verdict_ne_unwritten b fault
  · rw [(run_of_no_file registry c hno dryRun).1]
    simp

theorem canWrite_of_no_faults {tree : FileTree} (h : tree.faults = []) (p : Path) :
    CanWrite registry c cwd tree p := by
  rcases file_or_no_file cwd tree p with ⟨names, b, hlocate⟩ | hno
  · exact (writing_snd_eq_none_iff registry c hlocate).mp (writing_of_no_fault (by rw [h]; rfl) b)
  · intro fault
    rw [(run_of_no_file registry c hno false).1]
    simp

/-- A run on the file alone leaves other bytes in it. -/
def alters (tree : FileTree) (p : Path) : Bool :=
  (run registry c false cwd tree p).tree.bytes? p.names ≠ tree.bytes? p.names

/-- The diff that a run on the file alone tells. -/
def diffOf (tree : FileTree) (p : Path) : Text :=
  match (run registry c false cwd tree p).outcome with
  | .ok o => o.diff
  | .error _ => []

variable {cwd} in
/-- What a run on a file alone gives does not depend on the rest of the tree. -/
theorem alone_congr {tree tree' : FileTree} (hlinks : tree.Unlinked) {p : Path} (hp : p.IsPlain)
    (h : SameAt cwd tree tree' p) :
    (CanWrite registry c cwd tree' p ↔ CanWrite registry c cwd tree p) ∧
    alters registry c cwd tree' p = alters registry c cwd tree p ∧
    diffOf registry c cwd tree' p = diffOf registry c cwd tree p := by
  obtain ⟨houtcome, hleft⟩ := run_congr registry c hlinks hp h
  unfold CanWrite alters diffOf
  rw [houtcome false, hleft, h.bytes]
  exact ⟨Iff.rfl, rfl, rfl⟩

/-- A run tells of a change exactly if it leaves other bytes; with a conflict it leaves the same. -/
theorem outcome_cases {tree : FileTree} (hlinks : tree.Unlinked) {p : Path} (hp : p.IsPlain)
    (hwrite : CanWrite registry c cwd tree p) (dryRun : Bool) :
    match (run registry c dryRun cwd tree p).outcome with
    | .ok o => o.changed = alters registry c cwd tree p ∧ o.diff = diffOf registry c cwd tree p
    | .error _ => alters registry c cwd tree p = false := by
  rcases named_file_or_no_file cwd hlinks hp with ⟨b, hfile⟩ | hno
  · obtain ⟨houtcome, hleft⟩ := hwrite.run_eq registry c cwd hfile
    have hheld := FileTree.bytes?_of_locate hfile
    have halters : alters registry c cwd tree p = decide (left registry c p b ≠ b) := by
      simp [alters, hleft, hheld]
    unfold diffOf
    rw [houtcome, houtcome, halters]
    cases hverdict : verdict registry c p b with
    | ok o =>
      refine ⟨?_, rfl⟩
      rw [Bool.eq_iff_iff, decide_eq_true_eq]
      exact changed_iff_left_ne hverdict
    | error stop => simp [left_of_verdict_error hverdict]
  · have htree := (run_of_no_file registry c hno false).2
    unfold diffOf
    rw [(run_of_no_file registry c hno dryRun).1, (run_of_no_file registry c hno false).1]
    simp [alters, htree]

/-- A run that conflicts leaves its file as it was. -/
theorem bytes?_run_of_conflict {tree : FileTree} (hlinks : tree.Unlinked) {p : Path} (hp : p.IsPlain)
    {k : Edit.Conflict} (h : (run registry c false cwd tree p).outcome = .error (.conflict k)) :
    (run registry c false cwd tree p).tree.bytes? p.names = tree.bytes? p.names := by
  have hwrite : CanWrite registry c cwd tree p := by
    unfold CanWrite
    rw [h]
    simp
  have hcases := outcome_cases registry c cwd hlinks hp hwrite false
  rw [h] at hcases
  simpa [alters] using hcases

/-- Without plugins, every fixer says how to fix. -/
theorem outcome_ne_unfinished {registry : Registry} (hregistry : registry.extra = []) {tree : FileTree}
    {p : Path} (hwrite : CanWrite registry c cwd tree p) (dryRun : Bool) (e : Rule.Unfinished) :
    (run registry c dryRun cwd tree p).outcome ≠ .error (.unfinished e) := by
  rcases file_or_no_file cwd tree p with ⟨names, b, hfile⟩ | hno
  case inr =>
    rw [(run_of_no_file registry c hno dryRun).1]
    simp
  rw [(hwrite.run_eq registry c cwd hfile).1 dryRun]
  unfold verdict ofBytes
  simp only
  cases Utf8.decode (Utf8.splitMark b).2 with
  | error e => simp
  | ok text =>
    simp only [ofText, Detection.collectEdits_of_no_plugins hregistry]
    generalize Edit.applyAll text _ = x
    cases x <;> simp

end Fix

end HouseStyle
