import ImageGate.Text.Split
import Mathlib.Data.List.DropRight

/-!
# What the cuts find

Each way of cutting a text is told by where its parts lie: a cut at the first separator leaves none
in front of it (`cutFirst?_eq_some_iff`), one at the last leaves none behind it
(`cutLast?_eq_some_iff`). The pieces between all separators are the words that separators enclose
(`mem_pieces_iff`). Cutting at all separators is undone by joining, and the parts that a text was
joined from are found again if they hold no separator (`joined_iff`), nor the first character of one
that has two (`joinedAt_iff`).
-/

namespace ImageGate.Text

variable {sep : Char} {cs a b : List Char}

theorem not_mem_of_forall {Holds : Char → Prop} (h : ∀ c ∈ cs, Holds c) (hsep : ¬ Holds sep) :
    sep ∉ cs :=
  fun hmem => hsep (h sep hmem)

/-! ## One cut -/

theorem cutFirst?_append (h : sep ∉ a) : cutFirst? sep (a ++ sep :: b) = some (a, b) := by
  induction a with
  | nil => simp [cutFirst?]
  | cons c a ih =>
    rw [List.mem_cons, not_or] at h
    rw [List.cons_append, cutFirst?, if_neg (Ne.symm h.1), ih h.2]
    rfl

theorem cutFirst?_eq_some_iff : cutFirst? sep cs = some (a, b) ↔ cs = a ++ sep :: b ∧ sep ∉ a := by
  constructor
  · exact eq_of_cutFirst?_eq_some
  · rintro ⟨rfl, ha⟩
    exact cutFirst?_append ha

theorem cutLast?_eq_none_iff : cutLast? sep cs = none ↔ sep ∉ cs := by
  induction cs with
  | nil => simp [cutLast?]
  | cons c cs ih =>
    rw [cutLast?, List.mem_cons, not_or, ← ih]
    cases cutLast? sep cs with
    | some ab => simp
    | none => simp [eq_comm]

theorem cutLast?_append (h : sep ∉ b) : cutLast? sep (a ++ sep :: b) = some (a, b) := by
  induction a with
  | nil =>
    have hnone : cutLast? sep b = none := cutLast?_eq_none_iff.2 h
    simp [cutLast?, hnone]
  | cons c a ih => rw [List.cons_append, cutLast?, ih]

theorem cutLast?_eq_some_iff : cutLast? sep cs = some (a, b) ↔ cs = a ++ sep :: b ∧ sep ∉ b := by
  constructor
  · exact eq_of_cutLast?_eq_some
  · rintro ⟨rfl, hb⟩
    exact cutLast?_append hb

/-- `b` follows the last separator of a text, or there is none and `b` is the text. -/
def IsBehindLast (sep : Char) (cs b : List Char) : Prop :=
  sep ∉ b ∧ (cs = b ∨ ∃ a, cs = a ++ sep :: b)

theorem isBehindLast_iff : IsBehindLast sep cs b ↔ b = afterLast sep cs := by
  unfold IsBehindLast afterLast
  cases h : cutLast? sep cs with
  | none =>
    have hcs : sep ∉ cs := cutLast?_eq_none_iff.1 h
    constructor
    · rintro ⟨-, rfl | ⟨a, rfl⟩⟩
      · rfl
      · simp at hcs
    · rintro rfl
      exact ⟨hcs, .inl rfl⟩
  | some found =>
    obtain ⟨a, d⟩ := found
    obtain ⟨rfl, hd⟩ := cutLast?_eq_some_iff.1 h
    constructor
    · rintro ⟨hb, rfl | ⟨e, heq⟩⟩
      · simp at hb
      · rw [heq, cutLast?_append hb] at h
        cases h
        rfl
    · rintro rfl
      exact ⟨hd, .inr ⟨a, rfl⟩⟩

/-! ## All cuts -/

variable {isSep : Char → Bool}

theorem pieces_append {s : Char} (ha : ∀ c ∈ a, isSep c = false) (hs : isSep s = true) :
    pieces isSep (a ++ s :: b) = a :: pieces isSep b := by
  induction a with
  | nil => simp [pieces, hs]
  | cons c a ih =>
    obtain ⟨hc, ha⟩ := List.forall_mem_cons.1 ha
    rw [List.cons_append, pieces, ih ha, if_neg (by simp [hc])]

theorem pieces_of_forall (ha : ∀ c ∈ a, isSep c = false) : pieces isSep a = [a] := by
  induction a with
  | nil => rfl
  | cons c a ih =>
    obtain ⟨hc, ha⟩ := List.forall_mem_cons.1 ha
    rw [pieces, ih ha, if_neg (by simp [hc])]

theorem piecesAt_of_not_mem {s : Char} (t : Char) (h : s ∉ cs) : piecesAt s t cs = [cs] := by
  induction cs with
  | nil => rfl
  | cons c cs ih =>
    rw [List.mem_cons, not_or] at h
    cases cs with
    | nil => rfl
    | cons d cs => rw [piecesAt, if_neg fun hc => h.1 hc.1.symm, ih h.2]

theorem piecesAt_append {s : Char} (t : Char) (ha : s ∉ a) :
    piecesAt s t (a ++ s :: t :: b) = a :: piecesAt s t b := by
  induction a with
  | nil => simp [piecesAt]
  | cons c a ih =>
    rw [List.mem_cons, not_or] at ha
    obtain ⟨d, ds, hd⟩ : ∃ d ds, a ++ s :: t :: b = d :: ds :=
      List.exists_cons_of_ne_nil (List.append_ne_nil_of_right_ne_nil _ (List.cons_ne_nil _ _))
    have ih := ih ha.2
    rw [hd] at ih
    rw [List.cons_append, hd, piecesAt, if_neg fun hc => ha.1 hc.1.symm, ih]

inductive Joined (Part : List Char → Prop) (IsSep : Char → Prop) : List Char → Prop
  | one {w : List Char} : Part w → Joined Part IsSep w
  | more {w rest : List Char} {s : Char} : Part w → IsSep s → Joined Part IsSep rest →
      Joined Part IsSep (w ++ s :: rest)

variable {Part : List Char → Prop} {IsSep Holds : Char → Prop}

theorem Joined.forall_mem (hpart : ∀ w, Part w → ∀ c ∈ w, Holds c) (hsep : ∀ c, IsSep c → Holds c)
    (h : Joined Part IsSep cs) : ∀ c ∈ cs, Holds c := by
  induction h with
  | one hw => exact hpart _ hw
  | more hw hs _ ih =>
    rw [List.forall_mem_append, List.forall_mem_cons]
    exact ⟨hpart _ hw, hsep _ hs, ih⟩

theorem Joined.forall_pieces (hpart : ∀ w, Part w → ∀ c ∈ w, isSep c = false)
    (h : Joined Part (isSep · = true) cs) : ∀ w ∈ pieces isSep cs, Part w := by
  induction h with
  | one hw =>
    rw [pieces_of_forall (hpart _ hw), List.forall_mem_singleton]
    exact hw
  | more hw hs _ ih =>
    rw [pieces_append (hpart _ hw) hs, List.forall_mem_cons]
    exact ⟨hw, ih⟩

/-- The first piece is known only when the text has been read up to its end, so `front` is what has
been read of it. -/
theorem joined_of_pieces_eq_cons {front w : List Char} {ws : List (List Char)}
    (hcs : pieces isSep cs = w :: ws) (hw : Part (front ++ w)) (hws : ∀ v ∈ ws, Part v) :
    Joined Part (isSep · = true) (front ++ cs) := by
  induction cs generalizing front w ws with
  | nil =>
    cases hcs
    exact .one hw
  | cons c cs ih =>
    obtain ⟨v, vs, hv⟩ := List.exists_cons_of_ne_nil (pieces_ne_nil isSep cs)
    rw [pieces, hv] at hcs
    cases hc : isSep c with
    | true =>
      rw [hc, if_pos rfl] at hcs
      cases hcs
      rw [List.append_nil] at hw
      obtain ⟨hpart, hparts⟩ := List.forall_mem_cons.1 hws
      exact .more hw hc (ih hv (show Part ([] ++ v) from hpart) hparts)
    | false =>
      rw [hc, if_neg Bool.false_ne_true] at hcs
      cases hcs
      rw [List.append_cons] at hw ⊢
      exact ih hv hw hws

/-- A text is joined from parts exactly if its pieces are such parts. -/
theorem joined_iff (hsep : ∀ c, isSep c = true ↔ IsSep c)
    (hpart : ∀ w, Part w → ∀ c ∈ w, ¬ IsSep c) :
    Joined Part IsSep cs ↔ ∀ w ∈ pieces isSep cs, Part w := by
  obtain rfl : (isSep · = true) = IsSep := funext fun c => propext (hsep c)
  constructor
  · intro h
    exact h.forall_pieces fun w hw c hc => Bool.eq_false_iff.2 (hpart w hw c hc)
  · intro h
    obtain ⟨w, ws, hcs⟩ := List.exists_cons_of_ne_nil (pieces_ne_nil isSep cs)
    rw [hcs, List.forall_mem_cons] at h
    rw [← List.nil_append cs]
    exact joined_of_pieces_eq_cons hcs h.1 h.2

/-- What stands behind a separator is cut as if it stood alone. -/
theorem pieces_append_cons {s : Char} (hs : isSep s = true) :
    pieces isSep (a ++ s :: b) = pieces isSep a ++ pieces isSep b := by
  induction a with
  | nil => simp [pieces, hs]
  | cons c a ih =>
    obtain ⟨w, ws, hw⟩ := List.exists_cons_of_ne_nil (pieces_ne_nil isSep a)
    rw [List.cons_append, pieces, pieces, ih, hw]
    by_cases hc : isSep c = true
    · simp [hc]
    · simp [hc]

theorem isSep_of_mem_pieces (hw : w ∈ pieces isSep cs) : ∀ c ∈ w, isSep c = false := by
  induction cs generalizing w with
  | nil =>
    obtain rfl : w = [] := by simpa [pieces] using hw
    exact List.forall_mem_nil _
  | cons d cs ih =>
    obtain ⟨v, vs, hv⟩ := List.exists_cons_of_ne_nil (pieces_ne_nil isSep cs)
    rw [pieces, hv] at hw
    by_cases hd : isSep d = true
    · rw [if_pos hd, ← hv, List.mem_cons] at hw
      rcases hw with rfl | hw
      · exact List.forall_mem_nil _
      · exact ih hw
    · rw [if_neg hd, List.mem_cons] at hw
      rcases hw with rfl | hw
      · rw [List.forall_mem_cons]
        exact ⟨by simpa using hd, ih (hv ▸ List.mem_cons_self)⟩
      · exact ih (hv ▸ List.mem_cons_of_mem v hw)

theorem joined_pieces (isSep : Char → Bool) (cs : List Char) :
    Joined (fun w => ∀ c ∈ w, isSep c = false) (isSep · = true) cs := by
  refine (joined_iff (fun _ => Iff.rfl) fun w hw c hc => ?_).2 fun w => isSep_of_mem_pieces
  simp [hw c hc]

/-- The pieces are the words that separators, or the ends of the text, enclose. -/
theorem mem_pieces_iff : w ∈ pieces isSep cs ↔ (∀ c ∈ w, isSep c = false) ∧
    ∃ a b, cs = a ++ (w ++ b) ∧ (∀ c ∈ a.getLast?, isSep c = true) ∧
      ∀ c ∈ b.head?, isSep c = true := by
  constructor
  · intro hw
    refine ⟨isSep_of_mem_pieces hw, ?_⟩
    have hjoined := joined_pieces isSep cs
    induction hjoined with
    | @one v hv =>
      rw [pieces_of_forall hv, List.mem_singleton] at hw
      exact ⟨[], [], by simp [hw], nofun, nofun⟩
    | @more v rest s hv hs _ ih =>
      rw [pieces_append hv hs, List.mem_cons] at hw
      rcases hw with rfl | hw
      · exact ⟨[], s :: rest, rfl, nofun, by simpa using hs⟩
      · obtain ⟨a, b, rfl, ha, hb⟩ := ih hw
        refine ⟨v ++ s :: a, b, by simp, ?_, hb⟩
        cases a with
        | nil => simpa using hs
        | cons d a => simpa [List.getLast?_append] using ha
  · rintro ⟨hw, a, b, rfl, ha, hb⟩
    have hfirst : w ∈ pieces isSep (w ++ b) := by
      cases b with
      | nil =>
        rw [List.append_nil, pieces_of_forall hw]
        exact List.mem_singleton_self w
      | cons s b =>
        rw [pieces_append hw (hb s rfl)]
        exact List.mem_cons_self
    rcases List.eq_nil_or_concat a with rfl | ⟨a, s, rfl⟩
    · exact hfirst
    · have hs : isSep s = true := ha s (by simp)
      rw [List.concat_eq_append, List.append_assoc, List.singleton_append, pieces_append_cons hs]
      exact List.mem_append_right _ hfirst

theorem mem_joinWith {sep c : Char} {ws : List (List Char)} (h : c ∈ joinWith [sep] ws) :
    c = sep ∨ ∃ w ∈ ws, c ∈ w := by
  induction ws with
  | nil => cases h
  | cons w ws ih =>
    cases ws with
    | nil => exact .inr ⟨w, List.mem_singleton_self w, h⟩
    | cons v ws =>
      simp only [joinWith, List.mem_append, List.mem_singleton] at h
      rcases h with (h | h) | h
      · exact .inr ⟨w, List.mem_cons_self, h⟩
      · exact .inl h
      · rcases ih h with h | ⟨u, hu, hc⟩
        · exact .inl h
        · exact .inr ⟨u, List.mem_cons_of_mem _ hu, hc⟩

/-- Words without separators are found again when they have been joined. -/
theorem pieces_joinWith {ws : List (List Char)} (hne : ws ≠ [])
    (hws : ∀ w ∈ ws, ∀ c ∈ w, c ≠ sep) : pieces (· == sep) (joinWith [sep] ws) = ws := by
  induction ws with
  | nil => exact absurd rfl hne
  | cons w ws ih =>
    obtain ⟨hw, hws⟩ := List.forall_mem_cons.1 hws
    have hw : ∀ c ∈ w, (c == sep) = false := fun c hc => beq_eq_false_iff_ne.2 (hw c hc)
    cases ws with
    | nil => exact pieces_of_forall hw
    | cons v vs =>
      have hjoin : joinWith [sep] (w :: v :: vs) = w ++ sep :: joinWith [sep] (v :: vs) := by
        simp [joinWith]
      rw [hjoin, pieces_append hw (beq_self_eq_true sep), ih (List.cons_ne_nil _ _) hws]

/-- Parts with the characters `s` and `t` between them. -/
inductive JoinedAt (Part : List Char → Prop) (s t : Char) : List Char → Prop
  | one {w : List Char} : Part w → JoinedAt Part s t w
  | more {w rest : List Char} : Part w → JoinedAt Part s t rest →
      JoinedAt Part s t (w ++ s :: t :: rest)

section JoinedAt

variable {front w : List Char} {s t : Char}

theorem piecesAt_ne_nil (s t : Char) (cs : List Char) : piecesAt s t cs ≠ [] := by
  fun_cases piecesAt s t cs <;> simp_all

theorem joinedAt_of_piecesAt_eq_cons {ws : List (List Char)} (hcs : piecesAt s t cs = w :: ws)
    (hw : Part (front ++ w)) (hws : ∀ v ∈ ws, Part v) : JoinedAt Part s t (front ++ cs) := by
  induction cs using piecesAt.induct s t generalizing front w ws with
  | case1 =>
    cases hcs
    exact .one hw
  | case2 c =>
    cases hcs
    exact .one hw
  | case3 c d cs h ih =>
    obtain ⟨rfl, rfl⟩ := h
    rw [piecesAt, if_pos ⟨rfl, rfl⟩] at hcs
    obtain ⟨v, vs, hv⟩ := List.exists_cons_of_ne_nil (piecesAt_ne_nil c d cs)
    cases hcs
    rw [hv, List.forall_mem_cons] at hws
    rw [List.append_nil] at hw
    exact .more hw (ih hv (show Part ([] ++ v) from hws.1) hws.2)
  | case4 c d cs _ hnil => exact absurd hnil (piecesAt_ne_nil s t _)
  | case5 c d cs h v vs hv ih =>
    rw [piecesAt, if_neg h, hv] at hcs
    cases hcs
    rw [List.append_cons] at hw ⊢
    exact ih hv hw hws

/-- A text is joined from parts at two characters exactly if its pieces are such parts. -/
theorem joinedAt_iff (hpart : ∀ w, Part w → s ∉ w) :
    JoinedAt Part s t cs ↔ ∀ w ∈ piecesAt s t cs, Part w := by
  constructor
  · intro h
    induction h with
    | one hw =>
      rw [piecesAt_of_not_mem t (hpart _ hw), List.forall_mem_singleton]
      exact hw
    | more hw _ ih =>
      rw [piecesAt_append t (hpart _ hw), List.forall_mem_cons]
      exact ⟨hw, ih⟩
  · intro h
    obtain ⟨w, ws, hcs⟩ := List.exists_cons_of_ne_nil (piecesAt_ne_nil s t cs)
    rw [hcs, List.forall_mem_cons] at h
    rw [← List.nil_append cs]
    exact joinedAt_of_piecesAt_eq_cons hcs h.1 h.2

end JoinedAt

/-! ## Lengths -/

theorem byteLength_of_ascii (h : ∀ c ∈ cs, c.val ≤ 127) : byteLength cs = cs.length := by
  induction cs with
  | nil => rfl
  | cons c cs ih =>
    obtain ⟨hc, hcs⟩ := List.forall_mem_cons.1 h
    have hone : c.utf8Size = 1 := Char.utf8Size_eq_one_iff.2 hc
    rw [byteLength, hone, ih hcs, List.length_cons, Nat.add_comm]

theorem byteLength_eq_length_flatMap (cs : List Char) :
    byteLength cs = (cs.flatMap String.utf8EncodeChar).length := by
  induction cs with
  | nil => rfl
  | cons c cs ih =>
    rw [byteLength, List.flatMap_cons, List.length_append, String.length_utf8EncodeChar, ih]

theorem byteLength_toList (s : String) : byteLength s.toList = s.utf8ByteSize := by
  have h : s.toByteArray = s.toList.utf8Encode := String.utf8Encode_toList.symm
  rw [byteLength_eq_length_flatMap, String.utf8ByteSize, h, List.utf8Encode,
    List.size_toByteArray]

/-! ## Ends -/

variable {p : Char → Bool}

/-- `b` is a text without the characters at its ends that satisfy `p`. -/
def IsTrimmed (p : Char → Bool) (cs b : List Char) : Prop :=
  (∀ c ∈ b.head?, p c = false) ∧ (∀ c ∈ b.getLast?, p c = false) ∧
    ∃ front back, cs = front ++ b ++ back ∧ (∀ c ∈ front, p c = true) ∧ ∀ c ∈ back, p c = true

/-- What is left of a text begins with no character that has been dropped. -/
theorem of_mem_head?_dropWhile {c : Char} (hc : c ∈ (cs.dropWhile p).head?) : p c = false := by
  have hnot := List.head?_dropWhile_not p cs
  rw [hc] at hnot
  simpa using hnot

theorem dropWhile_append_of_head? {front : List Char} (hfront : ∀ c ∈ front, p c = true)
    (hb : ∀ c ∈ b.head?, p c = false) : (front ++ b).dropWhile p = b := by
  rw [List.dropWhile_append_of_pos hfront]
  cases b with
  | nil => rfl
  | cons c b =>
    have hc : p c = false := hb c rfl
    rw [List.dropWhile_cons_of_neg (by simp [hc])]

theorem takeWhile_append_of_head? {front : List Char} (hfront : ∀ c ∈ front, p c = true)
    (hb : ∀ c ∈ b.head?, p c = false) : (front ++ b).takeWhile p = front := by
  rw [List.takeWhile_append_of_pos hfront]
  cases b with
  | nil => simp
  | cons c b =>
    have hc : p c = false := hb c rfl
    rw [List.takeWhile_cons_of_neg (by simp [hc]), List.append_nil]

theorem trimBoth_eq_rdropWhile (p : Char → Bool) (cs : List Char) :
    trimBoth p cs = (cs.dropWhile p).rdropWhile p := rfl

theorem isTrimmed_trimBoth (p : Char → Bool) (cs : List Char) :
    IsTrimmed p cs (trimBoth p cs) := by
  have hback : trimBoth p cs ++ (cs.dropWhile p).rtakeWhile p = cs.dropWhile p := by
    rw [trimBoth_eq_rdropWhile, List.rdropWhile_append_rtakeWhile]
  refine ⟨fun c hc => ?_, fun c hc => ?_, cs.takeWhile p, (cs.dropWhile p).rtakeWhile p, ?_,
    fun c => List.mem_takeWhile_imp, fun c => List.mem_rtakeWhile_imp⟩
  · have hhead : (cs.dropWhile p).head? = some c := by
      rw [← hback, List.head?_append, hc, Option.some_or]
    exact of_mem_head?_dropWhile hhead
  · rw [trimBoth, List.getLast?_reverse] at hc
    exact of_mem_head?_dropWhile hc
  · rw [List.append_assoc, hback, List.takeWhile_append_dropWhile]

theorem isTrimmed_iff : IsTrimmed p cs b ↔ b = trimBoth p cs := by
  constructor
  · rintro ⟨hhead, hlast, front, back, rfl, hfront, hback⟩
    have hend : (b ++ back).reverse.dropWhile p = b.reverse := by
      rw [List.reverse_append]
      refine dropWhile_append_of_head? (fun c hc => hback c (List.mem_reverse.1 hc)) ?_
      rwa [List.head?_reverse]
    rw [trimBoth, List.append_assoc]
    cases b with
    | nil =>
      have hall : ∀ c ∈ front ++ ([] ++ back), p c = true := by
        intro c hc
        exact (List.mem_append.1 hc).elim (hfront c) (hback c)
      rw [List.dropWhile_eq_nil_iff.2 hall]
      rfl
    | cons c b =>
      rw [dropWhile_append_of_head? hfront (by simpa using hhead), hend, List.reverse_reverse]
  · rintro rfl
    exact isTrimmed_trimBoth p cs

end ImageGate.Text
