import WidgetRepair.Proofs.DiskSteps
import WidgetRepair.Proofs.StoreCalls

/-! The file of a store. The document is written beside it first and takes its place in one step, so
the file holds the old content or a whole document at every moment, and a store that is not dirty
stands in its file. -/

namespace WidgetRepair

/-- The bytes of a document as it stands in a file. -/
def StoreDocument.bytes (doc : StoreDocument) : ByteArray := doc.toText.toUTF8

namespace Store

/-- What stands before the last point of a name that has one. -/
theorem splitName_stem (name : String) : (Path.splitName name).1.toList <+: name.toList := by
  unfold Path.splitName
  dsimp only
  split
  next => exact List.prefix_rfl
  next => exact List.prefix_rfl
  next c stem _ rest =>
    have suffix : stem <:+ name.toList.reverse :=
      (List.suffix_cons c stem).trans (rest ▸ List.drop_suffix _ _)
    rw [String.toList_ofList, ← List.reverse_reverse name.toList]
    exact List.reverse_prefix.mpr suffix

theorem draft_name_ne (stem : String) : (Path.splitName (stem ++ ".json.tmp")).1 ≠ stem := by
  have back : (stem ++ ".json.tmp").toList.reverse =
      'p' :: 'm' :: 't' :: '.' :: 'n' :: 'o' :: 's' :: 'j' :: '.' :: stem.toList.reverse := by simp
  intro same
  have length := congrArg String.length same
  unfold Path.splitName at length
  rw [back] at length
  simp at length

theorem draft_plain {stem : String} (slashless : ∀ c ∈ stem.toList, (c == '/') = false) :
    Path.Plain (stem ++ ".json.tmp") where
  step := by
    have long : 2 < (stem ++ ".json.tmp").toList.length := by simp
    refine Path.stepOf?_name ?_ ?_ ?_ |>.trans (by rw [String.ofList_toList])
    all_goals
      intro short
      rw [short] at long
      simp at long
  slashless := by
    intro c member
    rw [String.toList_append] at member
    rcases List.mem_append.mp member with before | after
    · exact slashless c before
    · have free : ∀ d ∈ ".json.tmp".toList, (d == '/') = false := by simp
      exact free c after

theorem draft_reach (d : Disk) {path : Path} {name : String} {size : Nat}
    (last : path.measuredParts.getLast? = some (.name name, size)) :
    d.reach (draftPath path) ≠ d.reach path := by
  obtain ⟨around, rest, front, back, steps, stays, text, length, plain, beside⟩ :=
    Path.steps_beside last
  obtain ⟨tail, whole⟩ := splitName_stem name
  generalize split : (Path.splitName name).1 = stem at whole
  have draft : draftPath path = ⟨String.ofList (front ++ (stem ++ ".json.tmp").toList)⟩ := by
    have cut : size - (name.length - stem.length) = front.length + stem.toList.length := by
      rw [← length, ← String.length_toList, ← String.length_toList, ← whole, List.length_append]
      omega
    have start : path.text.toList.take (front.length + stem.toList.length) = front ++ stem.toList := by
      have parts : front ++ (stem.toList ++ tail) ++ back = (front ++ stem.toList) ++ (tail ++ back) := by
        simp
      rw [text, ← whole, parts, ← List.length_append, List.take_left]
    unfold draftPath Path.withExtension
    rw [last]
    simp only [split, cut, Path.take, start]
    congr 1
    apply String.toList_injective
    simp
  have slashless : ∀ c ∈ stem.toList, (c == '/') = false := fun c member =>
    plain.slashless c (whole ▸ List.mem_append_left _ member)
  obtain ⟨draftSteps, absolute⟩ := beside _ (draft_plain slashless)
  have start : d.start (draftPath path) = d.start path := by
    unfold Disk.start
    rw [draft, absolute]
  unfold Disk.reach
  rw [start, draft, draftSteps, steps, Disk.destination_append, Disk.destination_append]
  intro same
  have names : stem ++ ".json.tmp" = name := by
    simpa [Disk.destination, Disk.destination_stays _ stays] using same
  exact draft_name_ne stem (names ▸ split)

/-- What writing a document to a path leaves, whether it comes to an end or not. -/
structure Saved (path : Path) (doc : StoreDocument) (d : Disk) (result : Except DiskFault Unit)
    (after : Disk) : Prop where
  tree : after.IsTree
  origin : after.origin = d.origin
  whole : after.file? (d.reach path) = d.file? (d.reach path) ∨
    after.file? (d.reach path) = some doc.bytes
  written : result = .ok () →
    after.file? (d.reach path) = some doc.bytes ∧ after.read path = .ok doc.bytes
  elsewhere : ∀ l, l ≠ d.reach path → l ≠ d.reach (draftPath path) → after.file? l = d.file? l

/-- Nothing that keeps the disk as it is, or only adds folders, touches the file. -/
theorem Saved.grown {path : Path} {doc : StoreDocument} {d after : Disk} (grown : d.Grown after)
    (f : DiskFault) : Saved path doc d (.error f) after where
  tree := grown.tree
  origin := grown.origin
  whole := .inl (grown.file? _)
  written := nofun
  elsewhere := fun l _ _ => grown.file? l

theorem writable_draft {d : Disk} {path : Path} {l : Location} (tree : d.IsTree)
    (writable : d.Writable (draftPath path) l) : l ≠ d.reach path := by
  rw [Disk.locate_reach tree writable.located]
  by_cases named : ∃ name size, path.measuredParts.getLast? = some (.name name, size)
  · obtain ⟨name, size, last⟩ := named
    exact draft_reach d last
  · have same : draftPath path = path := by
      unfold draftPath Path.withExtension
      split
      next name size last => exact absurd ⟨name, size, last⟩ named
      next => rfl
    rw [same] at writable
    obtain ⟨name, last⟩ := writable.named tree
    exact absurd ⟨name, Path.last_name last⟩ named

theorem rename_draft {d : Disk} {path : Path} {doc : StoreDocument} {l : Location} (tree : d.IsTree)
    (located : d.locate (draftPath path) = .ok l) (draft : d.get? l = some (.file doc.bytes))
    (beside : l ≠ d.reach path) : Ends (OnDisk.rename (draftPath path) path) d (Saved path doc d) := by
  apply (OnDisk.rename_ends (draftPath path) path tree).mono
  intro result after renamed
  cases renamed with
  | refused f alike =>
    exact ⟨alike.isTree tree, alike.origin, .inl (alike.file? _), nofun, fun l _ _ => alike.file? l⟩
  | moved found file writable =>
    cases located.symm.trans found
    cases draft.symm.trans file
    have target := Disk.locate_reach tree writable.located
    have stands : (d.moved l (d.reach path) doc.bytes).get? (d.reach path) = some (.file doc.bytes) := by
      rw [Disk.moved_get? tree draft (target ▸ writable) beside.symm, if_pos rfl]
    have content : (d.moved l (d.reach path) doc.bytes).file? (d.reach path) = some doc.bytes := by
      unfold Disk.file?
      rw [stands]
    have kept := Disk.moved_kept tree draft writable
    rw [target] at kept writable ⊢
    refine ⟨Disk.moved_isTree tree draft writable, kept.origin, .inr content,
      fun _ => ⟨content, Disk.read_file (kept.locate writable.located) stands⟩, fun m other away => ?_⟩
    rw [← Disk.locate_reach tree located] at away
    refine Disk.file?_congr ?_
    rw [Disk.moved_get? tree draft writable away, if_neg (Ne.symm other)]

/-- What happened to other locations before does not matter to the file. -/
theorem Saved.after {path : Path} {doc : StoreDocument} {d between after : Disk}
    {result : Except DiskFault Unit} (saved : Saved path doc between result after)
    (origin : between.origin = d.origin)
    (same : ∀ l, l ≠ d.reach (draftPath path) → between.file? l = d.file? l)
    (beside : d.reach path ≠ d.reach (draftPath path)) : Saved path doc d result after := by
  have reach := Disk.reach_of_origin origin path
  have whole := saved.whole
  have written := saved.written
  have elsewhere := saved.elsewhere
  rw [reach] at whole written elsewhere
  rw [Disk.reach_of_origin origin (draftPath path)] at elsewhere
  rw [same _ beside] at whole
  exact ⟨saved.tree, saved.origin.trans origin, whole, written,
    fun l other away => (elsewhere l other away).trans (same l away)⟩

theorem writeDocument_ends {d : Disk} (path : Path) (doc : StoreDocument) (tree : d.IsTree) :
    Ends (writeDocument path doc) d (Saved path doc d) := by
  refine (OnDisk.makeParent_ends path tree).bind ?_ fun f _ grown => .grown grown f
  intro _ made grown
  refine (OnDisk.write_ends (draftPath path) doc.bytes grown.tree).bind ?_ ?_
  · intro _ drafted written
    cases written with
    | @whole l writable _ =>
      have beside := writable_draft grown.tree writable
      have saved := rename_draft (writable.put_isTree grown.tree doc.bytes)
        ((writable.put_kept doc.bytes).locate writable.located)
        (by rw [Disk.get?_put _ writable.inner, if_pos rfl]) beside
      have place := Disk.locate_reach grown.tree writable.located
      rw [Disk.reach_of_origin grown.origin] at place beside
      refine saved.mono fun result after saved => saved.after grown.origin (fun m away => ?_) ?_
      · rw [Disk.file?_put _ writable.inner, if_neg (place ▸ Ne.symm away)]
        exact grown.file? m
      · exact place ▸ beside.symm
  · intro f after written
    cases written with
    | refused f alike _ =>
      exact ⟨alike.isTree grown.tree, alike.origin.trans grown.origin,
        .inl ((alike.file? _).trans (grown.file? _)), nofun,
        fun l _ _ => (alike.file? l).trans (grown.file? l)⟩
    | cut writable _ =>
      have beside := writable_draft grown.tree writable
      have place := Disk.locate_reach grown.tree writable.located
      rw [Disk.reach_of_origin grown.origin] at beside place
      refine ⟨writable.put_isTree grown.tree _, grown.origin, .inl ?_, nofun, fun m _ away => ?_⟩
      · rw [Disk.file?_put _ writable.inner, if_neg beside]
        exact grown.file? _
      · rw [Disk.file?_put _ writable.inner, if_neg (place ▸ Ne.symm away)]
        exact grown.file? m

end Store

end WidgetRepair
