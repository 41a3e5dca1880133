import ImageGate.History.View
import ImageGate.Proofs.History.Run
import Mathlib.Data.Int.Order.Basic
import Mathlib.Order.Basic

/-!
# What a history knows of a tag

A history forgets most of what reports say: a row keeps the latest instant only, the mark moves on,
nodes are deleted, and sweeps delete rows. What a tag has named since an instant is not forgotten as
long as no sweep reaches behind that instant, whatever else has happened: `evidence_complete`.

Two facts carry the proof, and every step of a run keeps them (`Evident`). A row says what some
report has said, at the instant that the row tells. And of what a report has said there is a row, at
least as young as the report, unless a sweep has reached up to the report; this is where the clock
must not run backwards, for a row tells the instant of the last report that confirms it.
-/

namespace ImageGate

namespace Deed

/-- Instants are whole microseconds, and none lies before an earlier one. -/
structure Timely (past : List Deed) : Prop where
  nondecreasing : past.Pairwise fun later earlier => earlier.now.nanos ≤ later.now.nanos
  whole : ∀ d ∈ past, d.now.IsWhole

/-- A sweep has not reached behind an instant: the instant lies no earlier than `retention` before the
sweep, or than the start of 1970 where the calendar does not reach so far back. -/
def Spares (retention : Span) (after : Instant) : Deed → Prop
  | .stored .. => True
  | .swept _ now => retention = 0 ∨
      (if now.Reaches retention then now.nanos - retention.nanos else 0) ≤ after.nanos

instance (retention : Span) (after : Instant) (d : Deed) : Decidable (d.Spares retention after) :=
  match d with
  | .stored .. => inferInstanceAs (Decidable True)
  | .swept _ now => inferInstanceAs (Decidable (retention = 0 ∨
      (if now.Reaches retention then now.nanos - retention.nanos else 0) ≤ after.nanos))

/-- Where nothing has been swept, every instant has been spared. -/
theorem spares_of_not_swept {past : List Deed} {retention : Span} {after : Instant}
    (h : ∀ nodeRetention now, .swept nodeRetention now ∉ past) :
    ∀ d ∈ past, d.Spares retention after := by
  intro d hd
  cases d with
  | stored => trivial
  | swept nodeRetention now => exact absurd hd (h nodeRetention now)

/-- A report stored after an instant lists an image under a tag. -/
def Lists (past : List Deed) (tag : String) (after : Instant) (i : Image) : Prop :=
  ∃ node now report, .stored node now report ∈ past ∧ after.nanos < now.nanos ∧
    i ∈ report.images ∧ tag ∈ i.repoTags

end Deed

/-- An image has a digest, where one without digests has the empty one. -/
def Image.HasDigest (i : Image) (digest : String) : Prop :=
  digest ∈ i.repoDigests ∨ (i.repoDigests = [] ∧ digest = "")

theorem Image.mem_rowDigests {i : Image} {digest : String} :
    digest ∈ i.rowDigests ↔ i.HasDigest digest := by
  unfold rowDigests HasDigest
  cases i.repoDigests <;> simp

theorem Image.exists_hasDigest (i : Image) : ∃ digest, i.HasDigest digest := by
  unfold HasDigest
  cases i.repoDigests with
  | nil => exact ⟨"", .inr ⟨rfl, rfl⟩⟩
  | cons d ds => exact ⟨d, .inl List.mem_cons_self⟩

theorem Report.exists_of_mem_imageRows {report : Report} {node : Nat} {now : Int} {row : ImageRow}
    (h : row ∈ report.imageRows node now) :
    ∃ i ∈ report.images, row.entry.id = i.id ∧ row.entry.repoTag ∈ i.repoTags ∧
      i.HasDigest row.entry.repoDigest := by
  obtain ⟨e, he, rfl⟩ := List.mem_map.1 h
  obtain ⟨i, hi, tag, htag, digest, hdigest, rfl⟩ := mem_imageEntries.1 he
  exact ⟨i, hi, rfl, htag, Image.mem_rowDigests.1 hdigest⟩

theorem Report.exists_mem_imageRows {report : Report} {i : Image} {tag digest : String}
    (hi : i ∈ report.images) (htag : tag ∈ i.repoTags) (hdigest : i.HasDigest digest) (node : Nat)
    (now : Int) : ∃ row ∈ report.imageRows node now, row.key = ⟨node, i.id, tag, digest⟩ := by
  have he : i.entry tag digest ∈ report.imageEntries :=
    mem_imageEntries.2 ⟨i, hi, tag, htag, digest, Image.mem_rowDigests.2 hdigest, rfl⟩
  exact ⟨_, List.mem_map_of_mem he, rfl⟩

theorem entry_release (n : Nat) (r : ImageRow) : (Row.release n r).entry = r.entry := by
  unfold Row.release
  split <;> rfl

namespace History

variable {retention : Span} {past : List Deed} {h : History}

/-- Rows and reports bear each other out. -/
structure Evident (retention : Span) (past : List Deed) (h : History) : Prop where
  /-- What a row says, a report has said. -/
  backed : ∀ row ∈ h.images, ∃ node now report, .stored node now report ∈ past ∧
    row.reportedAt = now.toMicros ∧ ∃ i ∈ report.images, row.entry.id = i.id ∧
      row.entry.repoTag ∈ i.repoTags ∧ i.HasDigest row.entry.repoDigest
  /-- Of what a report has said there is a row, unless a sweep has reached up to the report. -/
  kept : ∀ node now report, .stored node now report ∈ past → ∀ i ∈ report.images,
    ∀ tag ∈ i.repoTags, ∀ digest, i.HasDigest digest →
      (∃ row ∈ h.images, row.key = ⟨node, i.id, tag, digest⟩ ∧ now.toMicros ≤ row.reportedAt) ∨
        ∃ nodeRetention t, .swept nodeRetention t ∈ past ∧ ¬ Survives retention t now.toMicros

theorem Evident.store {refused : Refusals} {next : History} {now : Instant}
    {report : Report} {node : Nat} (hc : Coherent h) (he : Evident retention past h)
    (hclock : ∀ d ∈ past, d.now.nanos ≤ now.nanos)
    (hs : h.store refused now report = (.ok node, next)) :
    Evident retention (.stored node now report :: past) next := by
  obtain ⟨-, -, -, himages, -⟩ := store_eq_ok hs
  refine ⟨fun row hrow => ?_, ?_⟩
  · rw [himages, Row.mem_confirm hc.images] at hrow
    rcases hrow with hlast | ⟨⟨old, hold, rfl⟩, -⟩
    · exact ⟨node, now, report, List.mem_cons_self, (Report.of_mem_imageRows hlast.mem).2.2,
        Report.exists_of_mem_imageRows hlast.mem⟩
    · obtain ⟨m, t, r, hmem, hat, hi⟩ := he.backed old hold
      refine ⟨m, t, r, List.mem_cons_of_mem _ hmem, ?_, ?_⟩
      · exact (Row.reportedAt_release node old).trans hat
      · rwa [entry_release]
  · intro m t r hmem i hi tag htag digest hdigest
    rw [himages]
    rcases List.mem_cons.1 hmem with heq | hmem
    · cases heq
      obtain ⟨row, hrow, hkey⟩ := Report.exists_mem_imageRows hi htag hdigest node now.toMicros
      obtain ⟨r', hr', hnew, hkey'⟩ := Row.exists_confirm_of_new node hc.images hrow
      exact .inl ⟨r', hr', hkey'.trans hkey, (Report.of_mem_imageRows hnew).2.2.ge⟩
    · rcases he.kept m t r hmem i hi tag htag digest hdigest with
        ⟨row, hrow, hkey, hle⟩ | ⟨nodeRetention, s, hmem', hswept⟩
      · obtain ⟨r', hr', hkey', hor⟩ := Row.exists_confirm_of_old node
          (report.imageRows node now.toMicros) hc.images hrow
        refine .inl ⟨r', hr', hkey'.trans hkey, ?_⟩
        rcases hor with hnew | rfl
        · rw [(Report.of_mem_imageRows hnew).2.2]
          exact Instant.toMicros_mono (hclock _ hmem)
        · exact hle.trans (Row.reportedAt_release node row).ge
      · exact .inr ⟨nodeRetention, s, List.mem_cons_of_mem _ hmem', hswept⟩

theorem Survives.mono {t : Instant} {a b : Int} (hab : a ≤ b) (ha : Survives retention t a) :
    Survives retention t b :=
  ha.imp_right fun hlt => lt_of_lt_of_le hlt hab

theorem Evident.sweep {nodeRetention : Span} {now : Instant} (he : Evident retention past h) :
    Evident retention (.swept nodeRetention now :: past)
      (h.sweep retention nodeRetention now).2 := by
  refine ⟨fun row hrow => ?_, ?_⟩
  · obtain ⟨m, t, r, hmem, hat⟩ := he.backed row (mem_images_sweep.1 hrow).1
    exact ⟨m, t, r, List.mem_cons_of_mem _ hmem, hat⟩
  · intro m t r hmem i hi tag htag digest hdigest
    have hmem : Deed.stored m t r ∈ past := by simpa using hmem
    rcases he.kept m t r hmem i hi tag htag digest hdigest with
      ⟨row, hrow, hkey, hle⟩ | ⟨nodeRetention, s, hmem', hswept⟩
    · by_cases hsurvives : Survives retention now row.reportedAt
      · exact .inl ⟨row, mem_images_sweep.2 ⟨hrow, hsurvives⟩, hkey, hle⟩
      · -- The row goes, and the report is no younger than the row.
        exact .inr ⟨_, _, List.mem_cons_self, fun ht => hsurvives (ht.mono hle)⟩
    · exact .inr ⟨nodeRetention, s, List.mem_cons_of_mem _ hmem', hswept⟩

theorem Run.evident (run : Run retention past h) (htimely : Deed.Timely past) :
    Evident retention past h := by
  induction run with
  | start => exact ⟨nofun, nofun⟩
  | stored run hs ih =>
    obtain ⟨hclock, hpast⟩ := List.pairwise_cons.1 htimely.nondecreasing
    have ih := ih ⟨hpast, fun d hd => htimely.whole d (List.mem_cons_of_mem _ hd)⟩
    exact ih.store run.coherent hclock hs
  | failed _ hs ih => exact store_eq_error hs ▸ ih htimely
  | swept _ ih =>
    obtain ⟨-, hpast⟩ := List.pairwise_cons.1 htimely.nondecreasing
    exact (ih ⟨hpast, fun d hd => htimely.whole d (List.mem_cons_of_mem _ hd)⟩).sweep

/-- The rows under a tag tell the images and digests that reports have listed under it. -/
theorem Run.exists_mem_evidence (run : Run retention past h) (htimely : Deed.Timely past)
    {after : Instant} (hspares : ∀ d ∈ past, d.Spares retention after) {tag id digest : String} :
    (∃ row ∈ h.evidence tag after, row.entry.id = id ∧ row.entry.repoDigest = digest) ↔
      ∃ i, Deed.Lists past tag after i ∧ i.id = id ∧ i.HasDigest digest := by
  have he := run.evident htimely
  simp only [evidence, List.mem_filter, Bool.and_eq_true, beq_iff_eq, decide_eq_true_eq]
  constructor
  · rintro ⟨row, ⟨hrow, rfl, hafter⟩, rfl, rfl⟩
    obtain ⟨node, now, report, hmem, hat, i, hi, hid, htag, hdigest⟩ := he.backed row hrow
    have hwhole : now.IsWhole := htimely.whole _ hmem
    rw [hat, Instant.toMicros_lt_iff hwhole] at hafter
    exact ⟨i, ⟨node, now, report, hmem, hafter, hi, htag⟩, hid.symm, hdigest⟩
  · rintro ⟨i, ⟨node, now, report, hmem, hafter, hi, htag⟩, rfl, hdigest⟩
    have hwhole : now.IsWhole := htimely.whole _ hmem
    have hlt : after.toMicros < now.toMicros := (Instant.toMicros_lt_iff hwhole).2 hafter
    rcases he.kept node now report hmem i hi tag htag digest hdigest with
      ⟨row, hrow, hkey, hle⟩ | ⟨nodeRetention, t, hswept, hgone⟩
    · exact ⟨row, ⟨hrow, congrArg ImageKey.repoTag hkey, hlt.trans_le hle⟩,
        congrArg ImageKey.id hkey, congrArg ImageKey.repoDigest hkey⟩
    · refine absurd ?_ hgone
      refine (hspares _ hswept).imp_right fun hcut => ?_
      rw [← Instant.nanos_before] at hcut
      exact (Instant.toMicros_mono hcut).trans_lt hlt

theorem Run.mem_idsAfter (run : Run retention past h) (htimely : Deed.Timely past)
    {after : Instant} (hspares : ∀ d ∈ past, d.Spares retention after) {tag id : String} :
    id ∈ h.idsAfter tag after ↔ ∃ i, Deed.Lists past tag after i ∧ i.id = id := by
  rw [idsAfter, mem_distinctTexts, List.mem_map]
  constructor
  · rintro ⟨row, hrow, hid⟩
    obtain ⟨i, hlists, hid, -⟩ := (run.exists_mem_evidence htimely hspares).1 ⟨row, hrow, hid, rfl⟩
    exact ⟨i, hlists, hid⟩
  · rintro ⟨i, hlists, hid⟩
    obtain ⟨digest, hdigest⟩ := i.exists_hasDigest
    obtain ⟨row, hrow, hid, -⟩ :=
      (run.exists_mem_evidence htimely hspares).2 ⟨i, hlists, hid, hdigest⟩
    exact ⟨row, hrow, hid⟩

/-- The digests under a tag are those of the images that stored reports have listed. -/
theorem Run.mem_digestsAfter (run : Run retention past h) (htimely : Deed.Timely past)
    {after : Instant} (hspares : ∀ d ∈ past, d.Spares retention after) {tag digest : String} :
    digest ∈ h.digestsAfter tag after ↔
      ∃ i, Deed.Lists past tag after i ∧ i.HasDigest digest := by
  rw [digestsAfter, mem_distinctTexts, List.mem_map]
  constructor
  · rintro ⟨row, hrow, hdigest⟩
    obtain ⟨i, hlists, -, hdigest⟩ :=
      (run.exists_mem_evidence htimely hspares).1 ⟨row, hrow, rfl, hdigest⟩
    exact ⟨i, hlists, hdigest⟩
  · rintro ⟨i, hlists, hdigest⟩
    obtain ⟨row, hrow, -, hdigest⟩ :=
      (run.exists_mem_evidence htimely hspares).2 ⟨i, hlists, rfl, hdigest⟩
    exact ⟨row, hrow, hdigest⟩

/-- **Nothing that a tag has named is forgotten.** Whatever reports, failures and sweeps have made
up the run, the images and digests under a tag since an instant that no sweep has reached behind
are, without repetitions and in the order of their bytes, those that stored reports have listed. -/
theorem Run.evidence_complete (run : Run retention past h) (htimely : Deed.Timely past)
    {after : Instant} (hspares : ∀ d ∈ past, d.Spares retention after) (tag : String) :
    ((h.idsAfter tag after).Pairwise fun a b => Text.utf8 a < Text.utf8 b) ∧
      (∀ id, id ∈ h.idsAfter tag after ↔ ∃ i, Deed.Lists past tag after i ∧ i.id = id) ∧
      ((h.digestsAfter tag after).Pairwise fun a b => Text.utf8 a < Text.utf8 b) ∧
      ∀ digest, digest ∈ h.digestsAfter tag after ↔
        ∃ i, Deed.Lists past tag after i ∧ i.HasDigest digest := by
  refine ⟨pairwise_distinctTexts _, fun id => ?_, pairwise_distinctTexts _, fun digest => ?_⟩
  · exact run.mem_idsAfter htimely hspares
  · exact run.mem_digestsAfter htimely hspares

/-- A node drops an image and is deleted, and still it is known that it has had the image. -/
theorem Run.evidence_complete_of_deleted_node :
    ∃ past h, Run (.ofSeconds 100) past h ∧ Deed.Timely past ∧
      (∀ d ∈ past, d.Spares (.ofSeconds 100) ⟨60, 0⟩) ∧
      h.nodes = [] ∧ "a" ∈ h.idsAfter "app:1" ⟨60, 0⟩ ∧ "" ∈ h.digestsAfter "app:1" ⟨60, 0⟩ := by
  let i : Image := { id := "a", repoTags := ["app:1"] }
  let past : List Deed :=
    [.swept (.ofSeconds 10) ⟨150, 0⟩, .stored 1 ⟨120, 0⟩ {}, .stored 1 ⟨100, 0⟩ { images := [i] }]
  have run : Run (.ofSeconds 100) past _ :=
    ((Run.start.store admitAll ⟨100, 0⟩ _ rfl).store admitAll ⟨120, 0⟩ _ rfl).swept
  have timely : Deed.Timely past := ⟨by decide, by decide⟩
  have spares : ∀ d ∈ past, d.Spares (.ofSeconds 100) ⟨60, 0⟩ := by decide
  have lists : Deed.Lists past "app:1" ⟨60, 0⟩ i :=
    ⟨1, ⟨100, 0⟩, { images := [i] }, by simp [past], by decide, by simp, by simp [i]⟩
  obtain ⟨-, hids, -, hdigests⟩ := run.evidence_complete timely spares "app:1"
  exact ⟨past, _, run, timely, spares, rfl, (hids "a").2 ⟨i, lists, rfl⟩,
    (hdigests "").2 ⟨i, lists, .inr ⟨rfl, rfl⟩⟩⟩

end History

end ImageGate
