import ImageGate.Proofs.Constraint.Reading

/-!
# Constraints mean what they say

However alternatives of conditions are written, the text is read, and the constraint that is read
admits the releases of which all conditions of some alternative hold: `parse_written`.

The text is followed through the reader. Cut at two bars, it falls into its alternatives
(`Written.forall₂_pieces`), because no condition holds a bar. Cut at separators, an alternative falls
into the tokens of its conditions (`exists_tokens_eq`), three for a range and one or two for other
conditions. These are taken as one item (`exists_takeItem_eq`), because the tokens behind them do not
begin with a dash. An item contributes what its condition stands for (`Contributes`), whichever
spelling it has, so an alternative is read as what its conditions stand for (`readAlternative_eq`).
-/

namespace ImageGate.Constraint

open Text Comparator

/-! ## Tokens -/

section Tokens

variable {gap w rest : List Char}

theorem tokens_eq (cs : List Char) :
    tokens cs = (pieces isSeparator cs).filter (!·.isEmpty) := rfl

@[simp] theorem tokens_nil : tokens [] = [] := rfl

theorem tokens_cons {s : Char} (hs : isSeparator s = true) (cs : List Char) :
    tokens (s :: cs) = tokens cs := by
  rw [tokens_eq, tokens_eq, pieces, if_pos hs]
  rfl

theorem tokens_gap (hgap : ∀ c ∈ gap, isSeparator c = true) (rest : List Char) :
    tokens (gap ++ rest) = tokens rest := by
  induction gap with
  | nil => rfl
  | cons s gap ih =>
    obtain ⟨hs, hgap⟩ := List.forall_mem_cons.1 hgap
    rw [List.cons_append, tokens_cons hs, ih hgap]

/-- A word is a token if it ends with the text or a gap is behind it. -/
theorem tokens_word (hw : ∀ c ∈ w, isSeparator c = false) (hne : w ≠ [])
    (hrest : ∀ c ∈ rest.head?, isSeparator c = true) : tokens (w ++ rest) = w :: tokens rest := by
  cases rest with
  | nil =>
    rw [List.append_nil, tokens_eq, pieces_of_forall hw, List.filter_cons_of_pos (by simp [hne])]
    rfl
  | cons s rest =>
    have hs : isSeparator s = true := hrest s rfl
    rw [tokens_cons hs, tokens_eq, pieces_append hw hs, List.filter_cons_of_pos (by simp [hne])]
    rfl

end Tokens

/-- A condition is written as these tokens. -/
inductive HasTokens : Condition → List Token → Prop
  | glued {c : Condition} {operator version : List Char} : c.HasOperator operator version →
      HasTokens c [operator ++ version]
  | apart {c : Condition} {operator version : List Char} : c.HasOperator operator version →
      operator ≠ [] → HasTokens c [operator, version]
  | range {lower upper : PartialVersion} {a b : List Char} : lower.Written a → upper.Written b →
      HasTokens (.range lower upper) [a, ['-'], b]

theorem isSeparator_of_mem_head? {gap : List Char} (hgap : ∀ c ∈ gap, isSeparator c = true)
    (hne : gap ≠ []) (rest : List Char) : ∀ c ∈ (gap ++ rest).head?, isSeparator c = true := by
  rw [List.head?_append_of_ne_nil _ hne]
  exact fun c hc => hgap c (List.mem_of_mem_head? hc)

/-- A condition is cut into its tokens, and what is behind it is cut as if it stood alone. -/
theorem exists_tokens_eq {c : Condition} {w : List Char} (h : c.Written w) :
    ∃ ts, HasTokens c ts ∧ ∀ rest : List Char, (∀ d ∈ rest.head?, isSeparator d = true) →
      tokens (w ++ rest) = ts ++ tokens rest := by
  cases h with
  | @operator _ operator gap version hop hgap =>
    have hversion : ∀ d ∈ version, isSeparator d = false :=
      fun d hd => (hop.isVersionChar d hd).not_separator
    have hoperator : ∀ d ∈ operator, isSeparator d = false :=
      fun d hd => not_separator_of_isOperatorChar (hop.isOperatorChar d hd)
    by_cases hapart : gap = [] ∨ operator = []
    · -- The operator and the version stand together, or there is no operator.
      refine ⟨_, .glued hop, fun rest hrest => ?_⟩
      have hword : tokens (operator ++ version ++ rest) = [operator ++ version] ++ tokens rest :=
        tokens_word (List.forall_mem_append.2 ⟨hoperator, hversion⟩)
          (List.append_ne_nil_of_right_ne_nil _ hop.ne_nil) hrest
      rcases hapart with rfl | rfl
      · exact hword
      · rw [List.nil_append, List.append_assoc, tokens_gap hgap.isSeparator]
        exact hword
    · rw [not_or] at hapart
      refine ⟨_, .apart hop hapart.2, fun rest hrest => ?_⟩
      have hhead := isSeparator_of_mem_head? hgap.isSeparator hapart.1 (version ++ rest)
      rw [List.append_assoc, List.append_assoc, tokens_word hoperator hapart.2 hhead,
        tokens_gap hgap.isSeparator, tokens_word hversion hop.ne_nil hrest]
      rfl
  | @range _ _ a b gap gap' ha hb hgap hne hgap' hne' =>
    refine ⟨_, .range ha hb, fun rest hrest => ?_⟩
    have hdash : isSeparator '-' = false := by decide
    have hcut : tokens ('-' :: (gap' ++ (b ++ rest))) = ['-'] :: tokens (gap' ++ (b ++ rest)) :=
      tokens_word (List.forall_mem_singleton.2 hdash) (List.cons_ne_nil _ _)
        (isSeparator_of_mem_head? hgap'.isSeparator hne' _)
    have hhead := isSeparator_of_mem_head? hgap.isSeparator hne ('-' :: (gap' ++ (b ++ rest)))
    simp only [List.append_assoc, List.cons_append]
    rw [tokens_word (fun d hd => (ha.isVersionChar d hd).not_separator) ha.ne_nil hhead,
      tokens_gap hgap.isSeparator, hcut, tokens_gap hgap'.isSeparator,
      tokens_word (fun d hd => (hb.isVersionChar d hd).not_separator) hb.ne_nil hrest]
    rfl

theorem exists_tokens_eq_of_listed {conditions : List Condition} {w : List Char}
    (h : Condition.Listed conditions w) :
    ∃ tss, List.Forall₂ HasTokens conditions tss ∧ tokens w = tss.flatten := by
  induction h with
  | @one c w gap hw hgap =>
    obtain ⟨ts, hts, htokens⟩ := exists_tokens_eq hw
    refine ⟨[ts], .cons hts .nil, ?_⟩
    have hhead : ∀ d ∈ gap.head?, isSeparator d = true :=
      fun d hd => hgap.isSeparator d (List.mem_of_mem_head? hd)
    rw [htokens gap hhead, ← List.append_nil gap, tokens_gap hgap.isSeparator]
    simp
  | @more c conditions w gap rest hw hgap hne _ ih =>
    obtain ⟨tss, htss, hrest⟩ := ih
    obtain ⟨ts, hts, htokens⟩ := exists_tokens_eq hw
    refine ⟨ts :: tss, .cons hts htss, ?_⟩
    rw [htokens _ (isSeparator_of_mem_head? hgap.isSeparator hne rest),
      tokens_gap hgap.isSeparator, hrest, List.flatten_cons]

theorem exists_tokens_eq_of_spaced {conditions : List Condition} {w : List Char}
    (h : Condition.Spaced conditions w) :
    ∃ tss, List.Forall₂ HasTokens conditions tss ∧ tokens w = tss.flatten := by
  cases h with
  | gap hgap hlisted =>
    rw [tokens_gap hgap.isSeparator]
    exact exists_tokens_eq_of_listed hlisted

/-! ## Items -/

/-- The item contributes to an alternative what the condition stands for. -/
inductive Contributes : Condition → Item → Prop
  | required {c : Condition} {texts : List (List Char)} : List.Forall₂ Reads texts c.required →
      c.excluded = [] → Contributes c (.required texts)
  | excluded {c : Condition} {r : Requirement} : c.required = [] → c.excluded = [r] →
      Contributes c (.excluded r)

theorem hasWildcard_text_nil (p : PartialVersion) : hasWildcard (p.text []) = false := by
  let IsNumber (w : List Char) : Prop := ∃ n, w = Nat.toDigits 10 n
  have hdigit : ∀ w, IsNumber w → ∀ c ∈ w, c.isDigit = true := by
    rintro w ⟨n, rfl⟩ c hc
    exact isDigit_of_mem_toDigits hc
  have hjoined : Joined IsNumber (fun c => (c == '.') = true) (p.text []) := by
    rcases p.more_cases with h | ⟨b, h⟩ | ⟨b, c, h⟩ <;>
      simp [PartialVersion.text, PartialVersion.behind, h]
    · exact .one ⟨_, rfl⟩
    · exact .more ⟨_, rfl⟩ rfl (.one ⟨_, rfl⟩)
    · exact .more ⟨_, rfl⟩ rfl (.more ⟨_, rfl⟩ rfl (.one ⟨_, rfl⟩))
  have hpieces := hjoined.forall_pieces fun w hw c hc => by
    rw [beq_eq_false_iff_ne]
    rintro rfl
    exact absurd (hdigit w hw _ hc) (by decide)
  refine List.any_eq_false.2 fun w hw => ?_
  split
  case h_1 c =>
    have hc : c.isDigit = true := hdigit _ (hpieces _ hw) c List.mem_cons_self
    simp [isWildcard_of_isDigit hc]
  case h_2 => exact Bool.false_ne_true

theorem exists_itemOf_eq {c : Condition} {operator version : List Char}
    (h : c.HasOperator operator version) :
    ∃ item, itemOf (operator ++ version) = .ok item ∧ Contributes c item := by
  have hhead : ∀ d ∈ version.head?, isOperatorChar d = false :=
    fun d hd => (h.isVersionChar d (List.mem_of_mem_head? hd)).not_operatorChar
  have htake : (operator ++ version).takeWhile isOperatorChar = operator :=
    takeWhile_append_of_head? h.isOperatorChar hhead
  have hdrop : (operator ++ version).dropWhile isOperatorChar = version :=
    dropWhile_append_of_head? h.isOperatorChar hhead
  unfold itemOf
  simp only [htake, hdrop]
  cases h with
  | @exclude p _ hversion =>
    obtain ⟨wildcards, hw, hv⟩ := exists_dropV_eq hversion
    have hreads : Reads ('=' :: p.text wildcards) (p.comparator .exact) := reads_sign .exact hw
    rw [hv, Requirement.ofTexts_singleton hreads]
    exact ⟨_, rfl, .excluded rfl rfl⟩
  | @require k p _ _ hop hversion =>
    obtain ⟨wildcards, hw, hv⟩ := exists_dropV_eq hversion
    have hreads : Reads (k.sign ++ p.text wildcards) (p.comparator k) := reads_sign k hw
    rw [hv]
    have hitem : Contributes (.require k p) (.required [k.sign ++ p.text wildcards]) :=
      .required (.cons hreads .nil) rfl
    cases k with
    | exact =>
      simp only [Comparison.spellings, List.mem_cons, List.not_mem_nil, or_false] at hop
      rcases hop with rfl | rfl | rfl
      · -- Without an operator, a version with a wildcard is left as it is.
        by_cases hwild : hasWildcard (p.text wildcards) = true
        · have hne : wildcards ≠ [] := by
            rintro rfl
            rw [hasWildcard_text_nil] at hwild
            cases hwild
          refine ⟨_, rfl, ?_⟩
          rw [if_pos hwild]
          exact .required (.cons (reads_text hw hne) .nil) rfl
        · refine ⟨_, rfl, ?_⟩
          rw [if_neg hwild]
          exact hitem
      · exact ⟨_, rfl, hitem⟩
      · exact ⟨_, rfl, hitem⟩
    | greater | greaterEq | less | lessEq | tilde | caret =>
      simp only [Comparison.spellings, List.mem_cons, List.not_mem_nil, or_false] at hop
      rcases hop with rfl | rfl <;> exact ⟨_, rfl, hitem⟩

theorem startsWithOperator_written {p : PartialVersion} {version : List Char}
    (h : p.Written version) : startsWithOperator version = false := by
  obtain ⟨d, ds, rfl⟩ := List.exists_cons_of_ne_nil h.ne_nil
  exact (h.isVersionChar d List.mem_cons_self).not_operatorChar

theorem exists_itemOfRange_eq {lower upper : PartialVersion} {a b : List Char}
    (ha : lower.Written a) (hb : upper.Written b) :
    ∃ item, itemOfRange a b = .ok item ∧ Contributes (.range lower upper) item := by
  obtain ⟨wildcards, hw, hv⟩ := exists_dropV_eq ha
  obtain ⟨wildcards', hw', hv'⟩ := exists_dropV_eq hb
  have hlower : Reads ('>' :: '=' :: lower.text wildcards) (lower.comparator .greaterEq) :=
    reads_sign .greaterEq hw
  have hupper : Reads ('<' :: '=' :: upper.text wildcards') (upper.comparator .lessEq) :=
    reads_sign .lessEq hw'
  rw [itemOfRange, startsWithOperator_written ha, startsWithOperator_written hb, hv, hv']
  exact ⟨_, rfl, .required (.cons hlower (.cons hupper .nil)) rfl⟩

theorem glue_of_not_all {t : Token} (h : ∃ d ∈ t, isOperatorChar d = false) (ts : List Token) :
    glue t ts = .ok (t, ts) := by
  have hall : ¬ t.all isOperatorChar = true := by simpa using h
  unfold glue
  rw [if_neg hall]

theorem glue_of_all {t : Token} (h : ∀ d ∈ t, isOperatorChar d = true) (v : Token)
    (ts : List Token) : glue t (v :: ts) = .ok (t ++ v, ts) := by
  rw [glue, if_pos (List.all_eq_true.2 h)]

theorem takeItem_of_glue {t token : Token} {ts more : List Token} {item : Item}
    (hglue : glue t ts = .ok (token, more)) (hmore : more.head? ≠ some ['-'])
    (hitem : itemOf token = .ok item) : takeItem t ts = .ok (item, more) := by
  unfold takeItem
  rw [hglue]
  simp only [bind, Except.bind]
  split
  · simp at hmore
  · simp at hmore
  · rw [hitem]
    rfl

/-- The tokens of a condition are taken as one item. -/
theorem exists_takeItem_eq {c : Condition} {t : Token} {ts more : List Token}
    (h : HasTokens c (t :: ts)) (hmore : more.head? ≠ some ['-']) :
    ∃ item, takeItem t (ts ++ more) = .ok (item, more) ∧ Contributes c item := by
  have hversion {version : List Char} (hne : version ≠ [])
      (hchars : ∀ d ∈ version, IsVersionChar d) : ∃ d ∈ version, isOperatorChar d = false := by
    obtain ⟨d, ds, rfl⟩ := List.exists_cons_of_ne_nil hne
    exact ⟨d, List.mem_cons_self, (hchars d List.mem_cons_self).not_operatorChar⟩
  cases h with
  | @glued _ operator version hop =>
    obtain ⟨item, hitem, hc⟩ := exists_itemOf_eq hop
    obtain ⟨d, hd, hnot⟩ := hversion hop.ne_nil hop.isVersionChar
    have hglue := glue_of_not_all ⟨d, List.mem_append_right operator hd, hnot⟩ more
    exact ⟨item, takeItem_of_glue hglue hmore hitem, hc⟩
  | @apart _ operator version hop hne =>
    obtain ⟨item, hitem, hc⟩ := exists_itemOf_eq hop
    have hglue := glue_of_all hop.isOperatorChar version more
    exact ⟨item, takeItem_of_glue hglue hmore hitem, hc⟩
  | range ha hb =>
    obtain ⟨item, hitem, hc⟩ := exists_itemOfRange_eq ha hb
    refine ⟨item, ?_, hc⟩
    rw [takeItem, glue_of_not_all (hversion ha.ne_nil ha.isVersionChar)]
    simp [bind, Except.bind, hitem, pure, Except.pure]

theorem readItems_cons {t : Token} {ts rest : List Token} {item : Item}
    (h : takeItem t ts = .ok (item, rest)) :
    readItems (t :: ts) = (readItems rest).map (item :: ·) := by
  rw [readItems]
  split
  case h_1 heq => rw [h] at heq; cases heq
  case h_2 heq => rw [h] at heq; cases heq; rfl

theorem HasTokens.exists_eq_cons {c : Condition} {ts : List Token} (h : HasTokens c ts) :
    ∃ t rest, ts = t :: rest ∧ t ≠ ['-'] := by
  have hoperator : ¬ isOperatorChar '-' = true := by decide
  have hversion : ¬ IsVersionChar '-' := by
    rintro (h | h) <;> exact absurd h (by decide)
  cases h with
  | @glued _ operator version hop =>
    refine ⟨_, [], rfl, fun heq => ?_⟩
    have hmem : '-' ∈ operator ++ version := heq ▸ List.mem_cons_self
    rcases List.mem_append.1 hmem with hmem | hmem
    · exact hoperator (hop.isOperatorChar _ hmem)
    · exact hversion (hop.isVersionChar _ hmem)
  | @apart _ operator version hop =>
    refine ⟨operator, [version], rfl, fun heq => hoperator (hop.isOperatorChar _ ?_)⟩
    rw [heq]
    exact List.mem_cons_self
  | @range _ _ a b ha =>
    refine ⟨a, [['-'], b], rfl, fun heq => hversion (ha.isVersionChar _ ?_)⟩
    rw [heq]
    exact List.mem_cons_self

theorem exists_readItems_eq {conditions : List Condition} {tss : List (List Token)}
    (h : List.Forall₂ HasTokens conditions tss) :
    ∃ items, readItems tss.flatten = .ok items ∧ List.Forall₂ Contributes conditions items := by
  induction h with
  | nil => exact ⟨[], by simp [readItems], .nil⟩
  | @cons c ts conditions tss hts htss ih =>
    obtain ⟨items, hitems, hcs⟩ := ih
    obtain ⟨t, rest, rfl, -⟩ := hts.exists_eq_cons
    have hmore : tss.flatten.head? ≠ some ['-'] := by
      cases htss with
      | nil => simp
      | cons hnext _ =>
        obtain ⟨u, more, rfl, hu⟩ := hnext.exists_eq_cons
        simpa using hu
    obtain ⟨item, hitem, hc⟩ := exists_takeItem_eq hts hmore
    refine ⟨item :: items, ?_, .cons hc hcs⟩
    rw [List.flatten_cons, List.cons_append, readItems_cons hitem, hitems]
    rfl

/-! ## Alternatives -/

theorem forall₂_requiredTexts {conditions : List Condition} {items : List Item}
    (h : List.Forall₂ Contributes conditions items) :
    List.Forall₂ Reads (requiredTexts items) (conditions.flatMap Condition.required) := by
  induction h with
  | nil => exact .nil
  | cons hc _ ih =>
    rw [requiredTexts, List.flatMap_cons, List.flatMap_cons]
    cases hc with
    | required hreads => exact List.rel_append hreads ih
    | excluded hnone => rwa [hnone]

theorem exclusions_eq {conditions : List Condition} {items : List Item}
    (h : List.Forall₂ Contributes conditions items) :
    exclusions items = conditions.flatMap Condition.excluded := by
  induction h with
  | nil => rfl
  | cons hc _ ih =>
    rw [List.flatMap_cons, ← ih]
    cases hc with
    | required _ hnone =>
      rw [hnone]
      rfl
    | excluded _ hone =>
      rw [hone]
      rfl

/-- **An alternative is read as what its conditions stand for.** -/
theorem readAlternative_eq {conditions : List Condition} {w : List Char}
    (h : Condition.Spaced conditions w)
    (hsize : (conditions.flatMap Condition.required).length ≤ Requirement.sizeMax) :
    readAlternative w = .ok (Condition.alternative conditions) := by
  obtain ⟨tss, htss, htokens⟩ := exists_tokens_eq_of_spaced h
  obtain ⟨items, hitems, hcs⟩ := exists_readItems_eq htss
  have hreads := forall₂_requiredTexts hcs
  have hrequired := Requirement.ofTexts_eq_ok hreads (hreads.length_eq ▸ hsize)
  have hsome : tss.flatten.isEmpty = false := by
    obtain ⟨c, cs, rfl⟩ := List.exists_cons_of_ne_nil h.ne_nil
    cases htss with
    | cons hts _ =>
      obtain ⟨t, rest, rfl, -⟩ := hts.exists_eq_cons
      rfl
  unfold readAlternative
  rw [htokens, hsome, hitems]
  simp only [Bool.false_eq_true, if_false, bind, Except.bind, hrequired, exclusions_eq hcs]
  rfl

/-! ## Constraints -/

/-- The pieces between the bars are the alternatives. -/
theorem Written.forall₂_pieces {alternatives : List (List Condition)} {cs : List Char}
    (h : Written alternatives cs) :
    List.Forall₂ (fun w conditions => Condition.Spaced conditions w) (piecesAt '|' '|' cs)
      alternatives := by
  induction h with
  | one hw =>
    rw [piecesAt_of_not_mem '|' hw.bar_not_mem]
    exact .cons hw .nil
  | more hw _ ih =>
    rw [piecesAt_append '|' hw.bar_not_mem]
    exact .cons hw ih

theorem mapM_readAlternative_eq {alternatives : List (List Condition)} {ws : List (List Char)}
    (h : List.Forall₂ (fun w conditions => Condition.Spaced conditions w) ws alternatives)
    (hsize : ∀ conditions ∈ alternatives,
      (conditions.flatMap Condition.required).length ≤ Requirement.sizeMax) :
    ws.mapM readAlternative = .ok (alternatives.map Condition.alternative) := by
  rw [mapM_eq_ok_iff]
  induction h with
  | nil => exact .nil
  | cons hw _ ih =>
    obtain ⟨hfirst, hothers⟩ := List.forall_mem_cons.1 hsize
    exact .cons (readAlternative_eq hw hfirst) (ih hothers)

/-! ## Main statement -/

/-- **Constraints mean what they say.** -/
theorem parse_written {alternatives : List (List Condition)} {s : String}
    (h : Written alternatives s.toList)
    (hsize : ∀ conditions ∈ alternatives, (conditions.map Condition.weight).sum ≤ 32) :
    ∃ c, parse s = .ok c ∧ ∀ v : Version, v.pre = [] →
      (c.admits v = true ↔ ∃ conditions ∈ alternatives, ∀ c ∈ conditions, c.Holds v) := by
  have hread : parse s = .ok (ofConditions alternatives) := by
    rw [parse, ofChars, mapM_readAlternative_eq h.forall₂_pieces fun conditions hmem => ?_]
    · rfl
    · rw [List.length_flatMap, funext Condition.length_required]
      exact hsize conditions hmem
  exact ⟨_, hread, fun v hv => admits_ofConditions_iff hv⟩

/-- Operators, exclusions, ranges, wildcards, a `v`, white space and commas in one constraint. -/
theorem parse_written_of_two_alternatives :
    ∃ c, parse "=>v1.2, != 1.3.x || 0 - 0.2" = .ok c ∧ c.admits ⟨1, 4, 0, [], []⟩ = true ∧
      c.admits ⟨1, 3, 9, [], []⟩ = false ∧ c.admits ⟨0, 2, 7, [], []⟩ = true := by
  let v1_2 : PartialVersion := ⟨1, [2], by decide, by decide⟩
  let v1_3 : PartialVersion := ⟨1, [3], by decide, by decide⟩
  let v0 : PartialVersion := ⟨0, [], by decide, by decide⟩
  let v0_2 : PartialVersion := ⟨0, [2], by decide, by decide⟩
  let first : List Condition := [.require .greaterEq v1_2, .exclude v1_3]
  let second : List Condition := [.range v0 v0_2]
  have hlower : (Condition.require .greaterEq v1_2).Written
      (['=', '>'] ++ ([] ++ 'v' :: v1_2.text [])) :=
    .operator (.require (by decide) (.prefixed ⟨by simp, by decide⟩)) (by decide)
  have hexclude : (Condition.exclude v1_3).Written (['!', '='] ++ ([' '] ++ v1_3.text ['x'])) :=
    .operator (.exclude (.plain ⟨by simp, by decide⟩)) (by decide)
  have hrange : (Condition.range v0 v0_2).Written
      (v0.text [] ++ ([' '] ++ '-' :: ([' '] ++ v0_2.text []))) :=
    .range (.plain ⟨by simp, by decide⟩) (.plain ⟨by simp, by decide⟩) (by decide) (by decide)
      (by decide) (by decide)
  have hfirst : Condition.Spaced first ([] ++ (_ ++ ([',', ' '] ++ (_ ++ [' '])))) :=
    .gap (by decide) (.more hlower (by decide) (by decide) (.one hexclude (by decide)))
  have hsecond : Condition.Spaced second ([' '] ++ (_ ++ [])) :=
    .gap (by decide) (.one hrange (by decide))
  have hwritten : Written [first, second] "=>v1.2, != 1.3.x || 0 - 0.2".toList := by
    convert Written.more hfirst (.one hsecond) using 1
    decide
  obtain ⟨c, hparse, hadmits⟩ := parse_written hwritten (by decide)
  refine ⟨c, hparse, (hadmits _ rfl).2 (by decide), ?_, (hadmits _ rfl).2 (by decide)⟩
  rw [← Bool.not_eq_true, hadmits _ rfl]
  decide

end ImageGate.Constraint
