import ImageGate.Proofs.Constraint.Language

/-!
# The items of constraints

Tokens are glued, the operator and the version of a comparator are told apart, and both are put
together again for the requirement. So an item is followed from its tokens (`Source`) to the
comparators that it asks for (`Item.texts`), and these are comparators if and only if the tokens are
an item of the language or a misreading: `isItem_of_source`, `exists_source_of_isItem`.
-/

namespace ImageGate.Constraint

open Text Version Comparator

/-! ## Operators -/

section Operators

variable {operator version : List Char}

/-- What is read of an operator and a text is that operator, save that an equals sign of the text
may join it. -/
theorem sign_of_isComparator (hop : ∀ c ∈ operator, isOperatorChar c = true) (hne : operator ≠ [])
    (h : IsComparator (operator ++ version)) :
    (∃ k : Comparison, operator = k.sign ∧ IsVersion version) ∨
      ∃ core, version = '=' :: core ∧ IsVersion core ∧ (operator = ['>'] ∨ operator = ['<']) := by
  obtain ⟨e, es, hes⟩ := List.exists_cons_of_ne_nil hne
  generalize htext : operator ++ version = text at h
  cases h with
  | plain hcore =>
    obtain ⟨d, ds, rfl, hd⟩ := hcore.exists_cons
    rw [hes] at htext hop
    obtain rfl : e = d := by simpa using congrArg List.head? htext
    exact absurd (hop e List.mem_cons_self) (by simp [isOperatorChar_of_isDigit hd])
  | @sign k core hcore =>
    obtain ⟨d, ds, hds, hd⟩ := hcore.exists_cons
    rcases List.append_eq_append_iff.1 htext with ⟨behind, hsign, rfl⟩ | ⟨behind, rfl, heq⟩
    · -- The operator is all of the sign or, if a character is missing, that is the equals sign.
      cases behind with
      | nil => exact .inl ⟨k, by simpa using hsign.symm, hcore⟩
      | cons c behind =>
        refine .inr ?_
        cases k <;> simp_all [Comparison.sign, List.cons_eq_append_iff]
    · -- What the operator has beyond the sign is the front of a version, so it is empty.
      cases behind with
      | nil =>
        obtain rfl : core = version := heq
        exact .inl ⟨k, by simp, hcore⟩
      | cons c behind =>
        obtain rfl : d = c := by simpa [hds] using congrArg List.head? heq
        refine absurd (hop d ?_) (by simp [isOperatorChar_of_isDigit hd])
        exact List.mem_append_right _ List.mem_cons_self

theorem isVersion_of_isComparator {k : Comparison} (h : IsComparator (k.sign ++ version))
    (hgreater : k ≠ .greater) (hless : k ≠ .less) : IsVersion version := by
  rcases sign_of_isComparator k.isOperatorChar_of_mem_sign k.sign_ne_nil h with
    ⟨-, -, h⟩ | ⟨_, -, -, hk⟩
  · exact h
  · cases k <;> simp_all [Comparison.sign]

/-- The comparator that an item makes of an operator and a version without a `v`. -/
def rewritten (operator version : List Char) : List Char :=
  match operator with
  | [] => if hasWildcard version then version else '=' :: version
  | ['=', '='] => '=' :: version
  | ['=', '>'] => '>' :: '=' :: version
  | ['=', '<'] => '<' :: '=' :: version
  | operator => operator ++ version

theorem isComparator_rewritten_of_isVersion {k : Comparison} (hop : operator ∈ k.spellings)
    (h : IsVersion version) : IsComparator (rewritten operator version) := by
  have hsign : IsComparator (k.sign ++ version) := .sign k h
  cases k with
  | exact =>
    simp only [Comparison.spellings, List.mem_cons, List.not_mem_nil, or_false] at hop
    rcases hop with rfl | rfl | rfl
    · rw [rewritten]
      split
      · exact .plain h
      · exact hsign
    · exact hsign
    · exact hsign
  | greater | greaterEq | less | lessEq | tilde | caret =>
    simp only [Comparison.spellings, List.mem_cons, List.not_mem_nil, or_false] at hop
    rcases hop with rfl | rfl <;> exact hsign

theorem isComparator_rewritten_iff (hop : ∀ c ∈ operator, isOperatorChar c = true)
    (hhead : ∀ c ∈ version.head?, isOperatorChar c = false) :
    IsComparator (rewritten operator (dropV version)) ↔
      (∃ k : Comparison, operator ∈ k.spellings ∧ IsVersionWord version) ∨
        Misread operator version := by
  have hword (k : Comparison) (hmem : operator ∈ k.spellings) (h : IsVersion (dropV version)) :
      (∃ k : Comparison, operator ∈ k.spellings ∧ IsVersionWord version) ∨
        Misread operator version :=
    .inl ⟨k, hmem, isVersionWord_iff.2 h⟩
  constructor
  · intro h
    unfold rewritten at h
    split at h
    case h_1 =>
      by_cases hwild : hasWildcard (dropV version) = true
      · rw [if_pos hwild] at h
        have hpart := (hasWildcard_iff h.head?_not_wildcard).1 hwild
        generalize htext : dropV version = text at h hpart
        cases h with
        | plain h => exact hword .exact (by decide) (htext ▸ h)
        | @sign k core h =>
          obtain ⟨c, cs, hsign⟩ := List.exists_cons_of_ne_nil k.sign_ne_nil
          have hc : isOperatorChar c = true :=
            k.isOperatorChar_of_mem_sign c (hsign ▸ List.mem_cons_self)
          rw [eq_cons_of_dropV (by rw [htext, hsign, List.cons_append]) hc hhead,
            ← List.cons_append, ← hsign]
          exact .inr (.wildcard k h hpart)
      · rw [if_neg hwild] at h
        exact hword .exact (by decide) (isVersion_of_isComparator (k := .exact) h nofun nofun)
    case h_2 =>
      exact hword .exact (by decide) (isVersion_of_isComparator (k := .exact) h nofun nofun)
    case h_3 =>
      exact hword .greaterEq (by decide)
        (isVersion_of_isComparator (k := .greaterEq) h nofun nofun)
    case h_4 =>
      exact hword .lessEq (by decide) (isVersion_of_isComparator (k := .lessEq) h nofun nofun)
    case h_5 hne _ _ _ =>
      rcases sign_of_isComparator hop hne h with ⟨k, rfl, hcore⟩ | ⟨core, heq, hcore, rfl | rfl⟩
      · exact hword k k.sign_mem_spellings hcore
      · rw [eq_cons_of_dropV heq (by decide) hhead]
        exact .inr (.greater hcore)
      · rw [eq_cons_of_dropV heq (by decide) hhead]
        exact .inr (.less hcore)
  · rintro (⟨k, hmem, h⟩ | h)
    · exact isComparator_rewritten_of_isVersion hmem (isVersionWord_iff.1 h)
    · cases h with
      | greater h => exact .sign .greaterEq h
      | less h => exact .sign .lessEq h
      | wildcard k h hpart =>
        have hsign : IsComparator (k.sign ++ _) := .sign k h
        have hwild := (hasWildcard_iff hsign.head?_not_wildcard).2 hpart
        simpa [rewritten, dropV, hwild] using hsign

end Operators

/-! ## Items -/

def Item.texts : Item → List (List Char)
  | .required texts => texts
  | .excluded _ => []

theorem requiredTexts_eq (items : List Item) : requiredTexts items = items.flatMap Item.texts :=
  rfl

/-- The tokens that an item is taken from. -/
inductive Source : List Token → Item → Prop
  | range {ts : List Token} {lower upper : Token} {item : Item} : Glued ts lower →
      itemOfRange lower upper = .ok item → Source (ts ++ [['-'], upper]) item
  | comparator {ts : List Token} {text : List Char} {item : Item} : Glued ts text →
      itemOf text = .ok item → Source ts item

section Items

variable {t : Token} {ts rest ws : List Token} {text operator version : List Char} {item : Item}

theorem exists_glued_of_glue (h : glue t ts = .ok (text, rest)) :
    ∃ ws, Glued ws text ∧ t :: ts = ws ++ rest := by
  unfold glue at h
  split at h
  case isTrue hall =>
    split at h
    · cases h
    · cases h
      exact ⟨_, .two (List.all_eq_true.1 hall), rfl⟩
  case isFalse hall =>
    cases h
    exact ⟨_, .one (by simpa using hall), rfl⟩

theorem Glued.exists_glue_eq (h : Glued ws text) :
    ∃ t ts, ws = t :: ts ∧ ∀ more, glue t (ts ++ more) = .ok (text, more) := by
  cases h with
  | one hnot => exact ⟨text, [], rfl, fun more => glue_of_not_all hnot more⟩
  | @two operator t hall => exact ⟨operator, [t], rfl, fun more => glue_of_all hall t more⟩

theorem exists_source_of_takeItem (h : takeItem t ts = .ok (item, rest)) :
    ∃ ws, Source ws item ∧ t :: ts = ws ++ rest := by
  unfold takeItem at h
  obtain ⟨⟨text, behind⟩, hglue, h⟩ := bind_eq_ok_iff.1 h
  obtain ⟨ws, hws, heq⟩ := exists_glued_of_glue hglue
  dsimp only at h
  split at h
  case h_1 upper rest' =>
    obtain ⟨item', hitem, h⟩ := bind_eq_ok_iff.1 h
    cases h
    exact ⟨_, .range hws hitem, by rw [heq]; simp⟩
  case h_2 => cases h
  case h_3 =>
    obtain ⟨item', hitem, h⟩ := bind_eq_ok_iff.1 h
    cases h
    exact ⟨ws, .comparator hws hitem, heq⟩

/-- An item is taken from its tokens, unless it looks like the lower bound of a range. -/
theorem Source.exists_takeItem_eq (h : Source ws item) :
    ∃ t ts, ws = t :: ts ∧
      ∀ more, more.head? ≠ some ['-'] → takeItem t (ts ++ more) = .ok (item, more) := by
  cases h with
  | @range ws lower upper _ hglued hitem =>
    obtain ⟨t, ts, rfl, hglue⟩ := hglued.exists_glue_eq
    refine ⟨t, ts ++ [['-'], upper], rfl, fun more _ => ?_⟩
    rw [takeItem, List.append_assoc, hglue]
    simp [bind, Except.bind, hitem, pure, Except.pure]
  | comparator hglued hitem =>
    obtain ⟨t, ts, rfl, hglue⟩ := hglued.exists_glue_eq
    exact ⟨t, ts, rfl, fun more hmore => takeItem_of_glue (hglue more) hmore hitem⟩

/-- Every text is an operator, which may be empty, and what is behind it. -/
theorem exists_operator_append (text : List Char) :
    ∃ operator version, text = operator ++ version ∧
      (∀ c ∈ operator, isOperatorChar c = true) ∧ ∀ c ∈ version.head?, isOperatorChar c = false := by
  exact ⟨text.takeWhile isOperatorChar, text.dropWhile isOperatorChar,
    List.takeWhile_append_dropWhile.symm, fun c => List.mem_takeWhile_imp,
    fun c => of_mem_head?_dropWhile⟩

theorem itemOf_append (hop : ∀ c ∈ operator, isOperatorChar c = true)
    (hhead : ∀ c ∈ version.head?, isOperatorChar c = false) (hne : operator ≠ ['!', '=']) :
    itemOf (operator ++ version) = .ok (.required [rewritten operator (dropV version)]) := by
  unfold itemOf rewritten
  simp only [takeWhile_append_of_head? hop hhead, dropWhile_append_of_head? hop hhead]
  split <;> simp_all

theorem itemOf_plain (hhead : ∀ c ∈ version.head?, isOperatorChar c = false) :
    itemOf version = .ok (.required [rewritten [] (dropV version)]) := by
  have hitem : itemOf ([] ++ version) = _ := itemOf_append nofun hhead nofun
  rwa [List.nil_append] at hitem

theorem isOperatorChar_of_mem_unequal : ∀ c ∈ ['!', '='], isOperatorChar c = true := by
  simp [isOperatorChar]

theorem itemOf_exclude_iff (hhead : ∀ c ∈ version.head?, isOperatorChar c = false) :
    itemOf (['!', '='] ++ version) = .ok item ↔
      ∃ r, Requirement.ofTexts ['=' :: dropV version] = .ok r ∧ item = .excluded r := by
  have hop := isOperatorChar_of_mem_unequal
  unfold itemOf
  simp only [takeWhile_append_of_head? hop hhead, dropWhile_append_of_head? hop hhead]
  cases Requirement.ofTexts ['=' :: dropV version] with
  | error => simp
  | ok r =>
    rw [Except.ok.injEq]
    constructor
    · rintro rfl
      exact ⟨r, rfl, rfl⟩
    · rintro ⟨_, ⟨⟩, rfl⟩
      rfl

/-- A comparator is an exclusion, or it is rewritten for the requirement. -/
theorem itemOf_cases (h : itemOf text = .ok item) :
    (∃ version r, text = ['!', '='] ++ version ∧ Requirement.ofTexts ['=' :: dropV version] = .ok r ∧
      item = .excluded r) ∨
    ∃ operator version, text = operator ++ version ∧
      (∀ c ∈ operator, isOperatorChar c = true) ∧ (∀ c ∈ version.head?, isOperatorChar c = false) ∧
      item = .required [rewritten operator (dropV version)] := by
  obtain ⟨operator, version, rfl, hop, hhead⟩ := exists_operator_append text
  by_cases hne : operator = ['!', '=']
  · subst hne
    obtain ⟨r, hr, rfl⟩ := (itemOf_exclude_iff hhead).1 h
    exact .inl ⟨version, r, rfl, hr, rfl⟩
  · rw [itemOf_append hop hhead hne] at h
    cases h
    exact .inr ⟨operator, version, rfl, hop, hhead, rfl⟩

theorem Glued.exists_mem {c : Char} (h : Glued ts text) (hc : c ∈ text) : ∃ t ∈ ts, c ∈ t := by
  cases h with
  | one => exact ⟨text, List.mem_singleton_self _, hc⟩
  | two =>
    rcases List.mem_append.1 hc with hc | hc
    · exact ⟨_, List.mem_cons_self, hc⟩
    · exact ⟨_, List.mem_cons_of_mem _ List.mem_cons_self, hc⟩

theorem mem_of_mem_dropV {c : Char} (h : c ∈ dropV version) : c ∈ version := by
  unfold dropV at h
  split at h
  · exact List.mem_cons_of_mem _ h
  · exact h

theorem comma_not_mem_rewritten (hop : ',' ∉ operator) (hversion : ',' ∉ version) :
    ',' ∉ rewritten operator version := by
  unfold rewritten
  split
  · split <;> simp [hversion]
  · simp [hversion]
  · simp [hversion]
  · simp [hversion]
  · simp [hop, hversion]

theorem Source.comma_not_mem (h : Source ts item) (hts : ∀ t ∈ ts, ',' ∉ t) :
    ∀ text ∈ item.texts, ',' ∉ text := by
  cases h with
  | @range ts lower upper _ hglued hitem =>
    have hlower : ',' ∉ dropV lower := fun hc => by
      obtain ⟨t, ht, hc⟩ := hglued.exists_mem (mem_of_mem_dropV hc)
      exact hts t (List.mem_append_left _ ht) hc
    have hupper : ',' ∉ dropV upper := fun hc => hts upper (by simp) (mem_of_mem_dropV hc)
    unfold itemOfRange at hitem
    split at hitem
    · cases hitem
    · cases hitem
      simp [Item.texts, hlower, hupper]
  | @comparator ts text _ hglued hitem =>
    have htext : ',' ∉ text := fun hc => by
      obtain ⟨t, ht, hc⟩ := hglued.exists_mem hc
      exact hts t ht hc
    rcases itemOf_cases hitem with ⟨version, r, rfl, -, rfl⟩ | ⟨operator, version, rfl, -, -, rfl⟩
    · exact nofun
    · rw [List.mem_append, not_or] at htext
      simpa [Item.texts] using
        comma_not_mem_rewritten htext.1 fun hc => htext.2 (mem_of_mem_dropV hc)

end Items

/-! ## The items of the language -/

section Language

variable {ts : List Token} {item : Item} {n : Nat}

/-- What is excluded is a version. -/
theorem isVersionWord_of_exclude {version : List Char} {r : Requirement} (hcomma : ',' ∉ version)
    (h : Requirement.ofTexts ['=' :: dropV version] = .ok r) : IsVersionWord version := by
  have hcommas : ∀ text ∈ ['=' :: dropV version], ',' ∉ text := by
    simpa using fun hc => hcomma (mem_of_mem_dropV hc)
  rcases (Requirement.exists_ofTexts_iff hcommas).1 ⟨r, h⟩ with ⟨w, hw, heq⟩ | ⟨htexts, -⟩
  · simp only [List.cons.injEq, and_true] at heq
    obtain ⟨rfl, -⟩ := heq
    exact absurd hw (by decide)
  · exact isVersionWord_iff.2 (isVersion_of_isComparator (k := .exact)
      (htexts _ (List.mem_singleton_self _)) nofun nofun)

theorem isItem_of_source (h : Source ts item) (hts : ∀ t ∈ ts, t ≠ [] ∧ ',' ∉ t)
    (htexts : ∀ text ∈ item.texts, IsComparator text) : IsItem Misread item.texts.length ts := by
  cases h with
  | @range ts lower upper _ hglued hitem =>
    unfold itemOfRange at hitem
    split at hitem
    · cases hitem
    · cases hitem
      have hlower : IsVersionWord lower := isVersionWord_iff.2 <|
        isVersion_of_isComparator (k := .greaterEq) (htexts _ List.mem_cons_self) nofun nofun
      have hupper : IsVersionWord upper := isVersionWord_iff.2 <|
        isVersion_of_isComparator (k := .lessEq)
          (htexts _ (List.mem_cons_of_mem _ List.mem_cons_self)) nofun nofun
      cases hglued with
      | one => exact .range hlower hupper
      | @two operator t hop =>
        -- A lower bound does not begin with an operator.
        obtain ⟨c, cs, rfl⟩ := List.exists_cons_of_ne_nil (hts operator (by simp)).1
        have hc : isOperatorChar c = false := hlower.head?_not_operatorChar c (by simp)
        rw [hop c List.mem_cons_self] at hc
        cases hc
  | @comparator ts text _ hglued hitem =>
    rcases itemOf_cases hitem with
      ⟨version, r, rfl, hr, rfl⟩ | ⟨operator, version, rfl, hop, hhead, rfl⟩
    · refine .exclude (isVersionWord_of_exclude (fun hc => ?_) hr) hglued
      obtain ⟨t, ht, hc⟩ := hglued.exists_mem (List.mem_append_right _ hc)
      exact (hts t ht).2 hc
    · have hread := htexts _ (List.mem_singleton_self _)
      rcases (isComparator_rewritten_iff hop hhead).1 hread with ⟨k, hk, hversion⟩ | hmis
      · exact .require hk hversion hglued
      · exact .stray hmis hglued

theorem Misread.operator {operator version : List Char} (h : Misread operator version) :
    (∀ c ∈ operator, isOperatorChar c = true) ∧ ∀ c ∈ version.head?, isOperatorChar c = false := by
  cases h <;> simp [isOperatorChar]

theorem exists_source_of_isItem (h : IsItem Misread n ts) :
    ∃ item, Source ts item ∧ (∀ text ∈ item.texts, IsComparator text) ∧ item.texts.length = n := by
  cases h with
  | @range a b ha hb =>
    have hoperator {version : Token} (h : IsVersionWord version) :
        startsWithOperator version = false :=
      (Option.any_eq_false _ _).2 fun c hc => by simp [h.head?_not_operatorChar c hc]
    refine ⟨.required ['>' :: '=' :: dropV a, '<' :: '=' :: dropV b], .range ha.glued ?_, ?_, rfl⟩
    · simp [itemOfRange, hoperator ha, hoperator hb]
    · refine List.forall_mem_cons.2 ⟨?_, List.forall_mem_singleton.2 ?_⟩
      · exact .sign .greaterEq (isVersionWord_iff.1 ha)
      · exact .sign .lessEq (isVersionWord_iff.1 hb)
  | @require k operator version _ hk hversion hglued =>
    have hop := k.isOperatorChar_of_mem_spellings operator hk
    have hhead := hversion.head?_not_operatorChar
    have hne : operator ≠ ['!', '='] := by
      rintro rfl
      cases k <;> simp [Comparison.spellings] at hk
    refine ⟨_, .comparator hglued (itemOf_append hop hhead hne), ?_, rfl⟩
    exact List.forall_mem_singleton.2
      ((isComparator_rewritten_iff hop hhead).2 (.inl ⟨k, hk, hversion⟩))
  | @exclude version _ hversion hglued =>
    have hsign : IsComparator ('=' :: dropV version) := .sign .exact (isVersionWord_iff.1 hversion)
    obtain ⟨c, hc⟩ := exists_reads hsign
    exact ⟨.excluded ⟨[c]⟩, .comparator hglued
      ((itemOf_exclude_iff hversion.head?_not_operatorChar).2
        ⟨_, Requirement.ofTexts_singleton hc, rfl⟩), List.forall_mem_nil _, rfl⟩
  | @stray operator version _ hmis hglued =>
    obtain ⟨hop, hhead⟩ := hmis.operator
    have hne : operator ≠ ['!', '='] := by
      rintro rfl
      cases hmis
    refine ⟨_, .comparator hglued (itemOf_append hop hhead hne), ?_, rfl⟩
    exact List.forall_mem_singleton.2 ((isComparator_rewritten_iff hop hhead).2 (.inr hmis))

theorem Misread.exists_isDigit {operator version : List Char} (h : Misread operator version) :
    ∃ c ∈ version, c.isDigit = true := by
  cases h with
  | greater h | less h =>
    obtain ⟨d, hmem, hd⟩ := h.exists_isDigit
    exact ⟨d, by simp [hmem], hd⟩
  | wildcard k h =>
    obtain ⟨d, hmem, hd⟩ := h.exists_isDigit
    exact ⟨d, by simp [hmem], hd⟩

theorem Glued.head?_ne_dash {operator version : List Char} (h : Glued ts (operator ++ version))
    (hdigit : ∃ c ∈ version, c.isDigit = true) : ts.head? ≠ some ['-'] := by
  obtain ⟨d, hmem, hd⟩ := hdigit
  have hmem : d ∈ operator ++ version := List.mem_append_right _ hmem
  generalize operator ++ version = text at h hmem
  intro hhead
  cases h with
  | one =>
    obtain rfl : text = ['-'] := by simpa using hhead
    obtain rfl : d = '-' := by simpa using hmem
    exact absurd hd (by decide)
  | two hop =>
    have hdash := hop '-' (by simp_all)
    exact absurd hdash (by decide)

theorem IsItem.head?_ne_dash (h : IsItem Misread n ts) : ts.head? ≠ some ['-'] := by
  cases h with
  | range ha => simpa using ha.ne_dash
  | require _ hversion hglued => exact hglued.head?_ne_dash hversion.exists_isDigit
  | exclude hversion hglued => exact hglued.head?_ne_dash hversion.exists_isDigit
  | stray hmis hglued => exact hglued.head?_ne_dash hmis.exists_isDigit

end Language

end ImageGate.Constraint
