import ImageGate.Proofs.Policy.Rejected

/-!
# Keys of evidence

What reports tell of an image is kept and looked up under one text: the name of the image, a colon
and its tag. There are colons in names with a port and in tags that are digests, and still the key
tells both: a slash follows every colon of a name, and there is no slash in a tag (`key_eq_iff`).

So what reports list under the key of one image cannot become evidence for another. Said of whole
runs: leave out of all reports of a run any tags that are keys of other images. The run goes on as
before, with the same numbers for nodes, and what is checked of the image is the same
(`key_separates`). The run with the tags left out is carried along the one with all of them
(`AgreesUnder`), one step at a time.
-/

namespace ImageGate

open Text

/-! ## Names and tags in one text -/

namespace Reference

variable {a b : String} {r t : Reference}

def IsRead (s : String) : Prop :=
  ∃ r, parse s = .ok r

theorem IsHex.slash_not_mem {cs : List Char} (h : IsHex cs) : '/' ∉ cs :=
  not_mem_of_forall h.chars (by decide)

theorem IsDigest.slash_not_mem {cs : List Char} (h : IsDigest cs) : '/' ∉ cs := by
  cases h with
  | mk halgorithm hhex =>
    have halgorithm : '/' ∉ _ := not_mem_of_forall halgorithm.chars (by decide)
    simp [halgorithm, hhex.slash_not_mem]

theorem WellFormed.slash_not_mem_ruleTag (h : WellFormed r) : '/' ∉ r.ruleTag.toList := by
  unfold ruleTag
  cases htag : r.tag with
  | some t => exact not_mem_of_forall (h.tag t htag).chars (by decide)
  | none =>
    cases hdigest : r.digest with
    | some d => exact (h.digest d hdigest).slash_not_mem
    | none => decide

/-- Where a slash follows every colon of the first part and there is none in the second part, the
colon between them is found again. -/
theorem append_colon_inj {name tag name' tag' : List Char}
    (hname : ∀ u v, name = u ++ ':' :: v → '/' ∈ v) (hname' : ∀ u v, name' = u ++ ':' :: v → '/' ∈ v)
    (htag : '/' ∉ tag) (htag' : '/' ∉ tag') (h : name ++ ':' :: tag = name' ++ ':' :: tag') :
    name = name' ∧ tag = tag' := by
  -- Of two different colons the first one stands in a name, with a slash between it and the other.
  have hsame {name tag name' tag' rest : List Char}
      (hname' : ∀ u v, name' = u ++ ':' :: v → '/' ∈ v) (htag : '/' ∉ tag)
      (hrest : name' = name ++ rest) (h : ':' :: tag = rest ++ ':' :: tag') : rest = [] := by
    cases rest with
    | nil => rfl
    | cons c rest =>
      rw [List.cons_append, List.cons.injEq] at h
      obtain ⟨rfl, rfl⟩ := h
      have hslash : '/' ∈ rest := hname' name rest hrest
      exact absurd (List.mem_append_left _ hslash) htag
  rcases List.append_eq_append_iff.1 h with ⟨rest, hrest, hbehind⟩ | ⟨rest, hrest, hbehind⟩
  · obtain rfl := hsame hname' htag hrest hbehind
    exact ⟨by simpa using hrest.symm, by simpa using hbehind⟩
  · obtain rfl := hsame hname htag' hrest hbehind
    exact ⟨by simpa using hrest, by simpa using hbehind.symm⟩

theorem toList_key (name tag : String) :
    (Rolling.key name tag).toList = name.toList ++ ':' :: tag.toList := by
  simp [Rolling.key]

/-- **The key of a reference tells its name and its tag.** -/
theorem WellFormed.key_eq_iff (hr : WellFormed r) (ht : WellFormed t) :
    Rolling.key r.name r.ruleTag = Rolling.key t.name t.ruleTag ↔
      r.name = t.name ∧ r.ruleTag = t.ruleTag := by
  constructor
  · intro h
    have h := congrArg String.toList h
    rw [toList_key, toList_key] at h
    have hsame := append_colon_inj (fun _ _ => hr.slash_mem_of_name_eq)
      (fun _ _ => ht.slash_mem_of_name_eq) hr.slash_not_mem_ruleTag ht.slash_not_mem_ruleTag h
    exact ⟨String.toList_inj.1 hsame.1, String.toList_inj.1 hsame.2⟩
  · rintro ⟨hname, htag⟩
    rw [hname, htag]

def evidenceKey (image : String) : String :=
  Rolling.key (nameAndTag image).1 (nameAndTag image).2

theorem evidenceKey_eq_iff (ha : IsRead a) (hb : IsRead b) :
    evidenceKey a = evidenceKey b ↔ nameAndTag a = nameAndTag b := by
  obtain ⟨r, hr⟩ := ha
  obtain ⟨t, ht⟩ := hb
  unfold evidenceKey
  rw [nameAndTag_of_parse hr, nameAndTag_of_parse ht, Prod.mk.injEq]
  exact (eq_render_and_wellFormed_of_parse hr).2.key_eq_iff (eq_render_and_wellFormed_of_parse ht).2

theorem evidenceKey_of_rejected (h : IsRejected a) : evidenceKey a = ":" := by
  rw [evidenceKey, nameAndTag_of_rejected h]
  rfl

theorem evidenceKey_ne_colon (h : IsRead a) : evidenceKey a ≠ ":" := by
  obtain ⟨r, hr⟩ := h
  intro heq
  have hlist := congrArg String.toList heq
  rw [evidenceKey, nameAndTag_of_parse hr, toList_key] at hlist
  have hname : r.name.toList ≠ [] := by
    intro hnil
    exact name_ne_empty hr (String.toList_eq_nil_iff.1 hnil)
  have hlength := congrArg List.length hlist
  have hpos := List.length_pos_of_ne_nil hname
  simp at hlength
  omega

/-- References with another name or tag have another key than the text, be it a reference or not. -/
theorem evidenceKey_ne (hb : IsRead b) (hne : nameAndTag b ≠ nameAndTag a) :
    evidenceKey b ≠ evidenceKey a := by
  cases ha : parse a with
  | ok r => exact fun heq => hne ((evidenceKey_eq_iff hb ⟨r, ha⟩).1 heq)
  | error fault =>
    rw [evidenceKey_of_rejected ⟨fault, ha⟩]
    exact evidenceKey_ne_colon hb

end Reference

/-! ## Tags left out of reports -/

def Image.dropTags (drop : String → Bool) (i : Image) : Image :=
  { i with repoTags := i.repoTags.filter (!drop ·) }

/-- The report with some tags left out of all images. -/
def Report.dropTags (drop : String → Bool) (r : Report) : Report :=
  { r with images := r.images.map (.dropTags drop) }

/-- What has happened, with some tags left out of the report. -/
def Deed.dropTags (drop : String → Bool) : Deed → Deed
  | .stored node now report => .stored node now (report.dropTags drop)
  | .swept nodeRetention now => .swept nodeRetention now

section DropTags

variable {drop : String → Bool}

theorem Image.entries_dropTags (i : Image) :
    (i.dropTags drop).entries = i.entries.filter fun e => !drop e.repoTag := by
  have hentries (tag : String) : ((i.rowDigests.map (i.entry tag)).filter fun e => !drop e.repoTag) =
      if drop tag then [] else i.rowDigests.map (i.entry tag) := by
    by_cases htag : drop tag = true
    · simp [htag, entry]
    · simp [htag, entry]
  show (i.repoTags.filter (!drop ·)).flatMap (fun tag => i.rowDigests.map (i.entry tag)) =
    (i.repoTags.flatMap fun tag => i.rowDigests.map (i.entry tag)).filter fun e => !drop e.repoTag
  induction i.repoTags with
  | nil => rfl
  | cons tag tags ih =>
    rw [List.flatMap_cons, List.filter_append, hentries, ← ih]
    by_cases htag : drop tag = true
    · simp [htag]
    · simp [htag]

/-- A report with tags left out puts the rows under the other tags. -/
theorem Report.imageRows_dropTags (report : Report) (node : Nat) (now : Int) :
    (report.dropTags drop).imageRows node now =
      (report.imageRows node now).filter fun row => !drop row.entry.repoTag := by
  have hentries : (report.dropTags drop).imageEntries =
      report.imageEntries.filter fun e => !drop e.repoTag := by
    unfold imageEntries dropTags
    rw [List.flatMap_map, List.filter_flatMap]
    simp only [Image.entries_dropTags]
  rw [imageRows, imageRows, hentries, List.filter_map]
  rfl

end DropTags

/-- Where only members are left out that do not satisfy `p`, the last one that does is the same. -/
theorem IsLast.filter_iff {α : Type} {p : α → Prop} {keep : α → Bool} {xs : List α} {x : α}
    (h : ∀ y ∈ xs, p y → keep y = true) : IsLast p (xs.filter keep) x ↔ IsLast p xs x := by
  induction xs with
  | nil => rfl
  | cons y ys ih =>
    obtain ⟨hy, hys⟩ := List.forall_mem_cons.1 h
    have hnone : (∀ z ∈ ys.filter keep, ¬ p z) ↔ ∀ z ∈ ys, ¬ p z := by
      constructor
      · intro hall z hz hp
        exact hall z (List.mem_filter.2 ⟨hz, hys z hz hp⟩) hp
      · intro hall z hz
        exact hall z (List.mem_filter.1 hz).1
    rw [cons_iff, ← ih hys]
    by_cases hkeep : keep y = true
    · rw [List.filter_cons_of_pos hkeep, cons_iff, hnone]
    · rw [List.filter_cons_of_neg hkeep]
      have hp : ¬ p y := fun hp => hkeep (hy hp)
      simp [hp]

namespace History

variable {retention : Span} {past : List Deed} {h g : History} {tag : String} {drop : String → Bool}

/-! ## Two histories side by side -/

/-- The histories have the same nodes, the same numbers and the same rows under a tag. -/
structure AgreesUnder (tag : String) (g h : History) : Prop where
  nodes : g.nodes = h.nodes
  issued : g.issued = h.issued
  images : ∀ row : ImageRow, row.entry.repoTag = tag → (row ∈ g.images ↔ row ∈ h.images)

theorem AgreesUnder.enrol (ha : AgreesUnder tag g h) (now : Int) (identity : NodeIdentity) :
    (g.enrol now identity).1 = (h.enrol now identity).1 ∧
      (g.enrol now identity).2.nodes = (h.enrol now identity).2.nodes := by
  unfold History.enrol node?
  rw [ha.nodes, ha.issued]
  split <;> exact ⟨rfl, rfl⟩

/-- Histories that agree under a tag agree under it when a report has been stored in one of them and
the report without other tags in the other one. -/
theorem AgreesUnder.store {refused : Refusals} {next : History} {now : Instant}
    {report : Report} {node : Nat} (ha : AgreesUnder tag g h) (hg : Coherent g) (hh : Coherent h)
    (hkeep : drop tag = false) (hs : h.store refused now report = (.ok node, next)) :
    (g.store admitAll now (report.dropTags drop)).1 = .ok node ∧
      AgreesUnder tag (g.store admitAll now (report.dropTags drop)).2 next := by
  obtain ⟨hnode, hnodes, hissued, himages, -⟩ := store_eq_ok hs
  obtain ⟨hid, hrows⟩ := ha.enrol now.toMicros report.runtime
  have hid : (g.enrol now.toMicros (report.dropTags drop).runtime).1 = node := hid.trans hnode.symm
  rw [store_of_admitted hid (firstRefusal_admitAll 0 _)]
  refine ⟨rfl, hrows.trans hnodes.symm, ?_, fun row htag => ?_⟩
  · rw [hissued, ha.issued]
  · rw [himages, Row.mem_confirm hg.images, Row.mem_confirm hh.images, Report.imageRows_dropTags]
    -- Rows with the key of this row have its tag, and that is not left out.
    have hkept (s : ImageRow) (hs : Row.key s = Row.key row) : (!drop s.entry.repoTag) = true := by
      have hsame : s.entry.repoTag = row.entry.repoTag := congrArg ImageKey.repoTag hs
      rw [hsame, htag, hkeep]
      rfl
    have hold : (∃ old ∈ g.images, Row.release node old = row) ↔
        ∃ old ∈ h.images, Row.release node old = row := by
      refine exists_congr fun old => and_congr_left fun hrow => ha.images old ?_
      rw [← hrow, entry_release] at htag
      exact htag
    rw [IsLast.filter_iff fun s _ hs => hkept s hs, hold]
    refine or_congr_right (and_congr_right fun _ => ⟨fun hall s hs hkey => ?_, fun hall s hs => ?_⟩)
    · exact hall s (List.mem_filter.2 ⟨hs, hkept s hkey⟩) hkey
    · exact hall s (List.mem_filter.1 hs).1

theorem AgreesUnder.sweep {nodeRetention : Span} {now : Instant} (ha : AgreesUnder tag g h) :
    AgreesUnder tag (g.sweep retention nodeRetention now).2
      (h.sweep retention nodeRetention now).2 := by
  refine ⟨?_, ?_, fun row htag => ?_⟩
  · rw [nodes_sweep, nodes_sweep, ha.nodes]
  · rw [issued_sweep, issued_sweep, ha.issued]
  · rw [mem_images_sweep, mem_images_sweep, ha.images row htag]

/-- **A run without other tags goes beside every run.** -/
theorem Run.exists_agreesUnder (run : Run retention past h) (hkeep : drop tag = false) :
    ∃ g, Run retention (past.map (.dropTags drop)) g ∧ AgreesUnder tag g h := by
  induction run with
  | start => exact ⟨{}, .start, rfl, rfl, fun _ _ => Iff.rfl⟩
  | stored run hs ih =>
    obtain ⟨g, hrun, hagrees⟩ := ih
    obtain ⟨hnode, hnext⟩ := hagrees.store hrun.coherent run.coherent hkeep hs
    exact ⟨_, hrun.store admitAll _ _ hnode, hnext⟩
  | failed run hs ih =>
    rw [store_eq_error hs]
    exact ih
  | swept run ih =>
    obtain ⟨g, hrun, hagrees⟩ := ih
    exact ⟨_, hrun.swept, hagrees.sweep⟩

/-! ## What is found under a tag -/

theorem AgreesUnder.mem_evidence (ha : AgreesUnder tag g h) {after : Instant} {row : ImageRow} :
    row ∈ g.evidence tag after ↔ row ∈ h.evidence tag after := by
  simp only [evidence, List.mem_filter, Bool.and_eq_true, beq_iff_eq]
  constructor
  · rintro ⟨hrow, htag, hafter⟩
    exact ⟨(ha.images row htag).1 hrow, htag, hafter⟩
  · rintro ⟨hrow, htag, hafter⟩
    exact ⟨(ha.images row htag).2 hrow, htag, hafter⟩

theorem AgreesUnder.distinctTexts_evidence (ha : AgreesUnder tag g h) (after : Instant)
    (f : ImageRow → String) : distinctTexts ((g.evidence tag after).map f) =
      distinctTexts ((h.evidence tag after).map f) := by
  apply distinctTexts_congr
  intro s
  simp only [List.mem_map, ha.mem_evidence]

theorem AgreesUnder.check {name tag : String} (ha : AgreesUnder (Rolling.key name tag) g h)
    (answers : Question → Bool) (inspector : Option Inspector) (after : Instant) :
    Rolling.check ⟨g, answers⟩ inspector after name tag =
      Rolling.check ⟨h, answers⟩ inspector after name tag := by
  have hids : g.idsAfter (Rolling.key name tag) after = h.idsAfter (Rolling.key name tag) after :=
    ha.distinctTexts_evidence after _
  have hdigests :
      g.digestsAfter (Rolling.key name tag) after = h.digestsAfter (Rolling.key name tag) after :=
    ha.distinctTexts_evidence after _
  unfold Rolling.check Archive.ids? Archive.digests?
  simp only [hids, hdigests]

end History

/-! ## Main statement -/

namespace Rolling

open Reference

/-- **Keys of evidence do not collide.** Two references have the same key exactly if they have the
same name and the same tag, and no reference has a colon alone for its key, which is the key of all
texts that are no references. So, whatever reports, failures and sweeps have made up a run, tags
that are keys of other references can be left out of its reports, and the run goes on as it did with
the same answers to what is checked of the image, whichever questions get no answer. -/
theorem key_separates :
    (∀ a b, IsRead a → IsRead b →
      (key (nameAndTag a).1 (nameAndTag a).2 = key (nameAndTag b).1 (nameAndTag b).2 ↔
        (nameAndTag a).1 = (nameAndTag b).1 ∧ (nameAndTag a).2 = (nameAndTag b).2)) ∧
    (∀ a, IsRead a → key (nameAndTag a).1 (nameAndTag a).2 ≠ ":") ∧
    ∀ image drop, (∀ tag, drop tag = true → ∃ other, IsRead other ∧
        nameAndTag other ≠ nameAndTag image ∧
        tag = key (nameAndTag other).1 (nameAndTag other).2) →
      ∀ retention past h, History.Run retention past h →
        ∃ g, History.Run retention (past.map (.dropTags drop)) g ∧ ∀ answers inspector after,
          check ⟨g, answers⟩ inspector after (nameAndTag image).1 (nameAndTag image).2 =
            check ⟨h, answers⟩ inspector after (nameAndTag image).1 (nameAndTag image).2 := by
  refine ⟨fun a b ha hb => ?_, fun a ha => evidenceKey_ne_colon ha, ?_⟩
  · rw [← Prod.ext_iff]
    exact evidenceKey_eq_iff ha hb
  · intro image drop hdrop retention past h run
    have hkeep : drop (evidenceKey image) = false := by
      apply Bool.eq_false_iff.2
      intro htag
      obtain ⟨other, hother, hne, heq⟩ := hdrop _ htag
      exact evidenceKey_ne hother hne heq.symm
    obtain ⟨g, hrun, hagrees⟩ := run.exists_agreesUnder hkeep
    exact ⟨g, hrun, fun answers inspector after => hagrees.check answers inspector after⟩

/-- The names have a port, and one of the tags is a digest. The registry has moved on under the
other one, and a report without the digest tells it as well. -/
theorem key_separates_of_port_and_digest :
    let digest := "sha256:0123456789abcdef0123456789abcdef"
    let tagged := nameAndTag "localhost:5000/app"
    let pinned := nameAndTag ("localhost:5000/app@" ++ digest)
    let i : Image := { id := "a", repoTags := [key tagged.1 tagged.2, key pinned.1 pinned.2] }
    let drop : String → Bool := (· == "localhost:5000/app:" ++ digest)
    let past := [Deed.stored 1 ⟨100, 0⟩ { images := [i] }]
    pinned = ("localhost:5000/app", digest) ∧ key tagged.1 tagged.2 ≠ key pinned.1 pinned.2 ∧
      key pinned.1 pinned.2 ≠ ":" ∧ (i.dropTags drop).repoTags = ["localhost:5000/app:latest"] ∧
      ∃ g, History.Run 0 (past.map (.dropTags drop)) g ∧
        check g (some fun _ => .answered "sha256:new") .epoch tagged.1 tagged.2 =
          (true, ["localhost:5000/app:latest"]) := by
  intro digest tagged pinned i drop past
  have htagged : IsRead "localhost:5000/app" :=
    ⟨⟨"localhost:5000", "app", none, none⟩, by decide⟩
  have hpinned : IsRead ("localhost:5000/app@" ++ digest) :=
    ⟨⟨"localhost:5000", "app", none, some digest⟩, by decide⟩
  have hnamed : pinned = ("localhost:5000/app", digest) := by decide
  have hdrop : ∀ tag, drop tag = true → ∃ other, IsRead other ∧
      nameAndTag other ≠ nameAndTag "localhost:5000/app" ∧
      tag = key (nameAndTag other).1 (nameAndTag other).2 := by
    intro tag htag
    exact ⟨_, hpinned, by decide, (beq_iff_eq.1 htag).trans (by decide)⟩
  have run : History.Run 0 past _ := History.Run.start.store History.admitAll ⟨100, 0⟩ _ rfl
  obtain ⟨hinj, hcolon, hseparate⟩ := key_separates
  obtain ⟨g, hrun, hcheck⟩ := hseparate "localhost:5000/app" drop hdrop 0 past _ run
  refine ⟨hnamed, fun heq => ?_, hcolon _ hpinned, by decide, g, hrun, ?_⟩
  · exact absurd ((hinj _ _ htagged hpinned).1 heq).2 (by decide)
  · rw [hcheck]
    decide +kernel

end Rolling

end ImageGate
