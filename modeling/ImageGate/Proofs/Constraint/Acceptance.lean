import ImageGate.Proofs.Constraint.Items
import Mathlib.Data.List.Chain

/-!
# Which texts are constraints

The items of an alternative are read one by one, and their comparators all at once, so an alternative
is read if its tokens are items and there are not too many comparators, or if it is a lone wildcard
(`exists_readAlternative_iff`). Since there is no bar in an alternative, a text is read if it is in
the language, the misreadings included (`exists_ofChars_iff`).

The misreadings are told from everything else by an operator character directly behind a `v`
(`VApart`): without one, the rules of the language are all there is.
-/

namespace ImageGate.Constraint

open Text Version Comparator

/-! ## Reading alternatives -/

section Alternatives

variable {ts : List Token} {n : Nat}

theorem exists_sources_of_readItems {items : List Item} (h : readItems ts = .ok items) :
    ∃ tss, List.Forall₂ Source tss items ∧ tss.flatten = ts := by
  fun_induction readItems ts generalizing items with
  | case1 =>
    cases h
    exact ⟨[], .nil, rfl⟩
  | case2 => cases h
  | case3 t ts item rest htake _ ih =>
    obtain ⟨more, hmore, rfl⟩ := map_eq_ok_iff.1 h
    obtain ⟨tss, htss, rfl⟩ := ih hmore
    obtain ⟨ws, hws, heq⟩ := exists_source_of_takeItem htake
    exact ⟨ws :: tss, .cons hws htss, heq.symm⟩

theorem readItems_flatten {tss : List (List Token)} {items : List Item}
    (h : List.Forall₂ Source tss items) (hdash : ∀ ts ∈ tss, ts.head? ≠ some ['-']) :
    readItems tss.flatten = .ok items := by
  induction h with
  | nil => simp [readItems]
  | @cons ws item tss items hws htss ih =>
    obtain ⟨t, ts, rfl, htake⟩ := hws.exists_takeItem_eq
    obtain ⟨-, hdash⟩ := List.forall_mem_cons.1 hdash
    have hmore : tss.flatten.head? ≠ some ['-'] := by
      cases htss with
      | nil => simp
      | cons hnext =>
        obtain ⟨u, us, rfl, -⟩ := hnext.exists_takeItem_eq
        exact hdash (u :: us) List.mem_cons_self
    rw [List.flatten_cons, List.cons_append, readItems_cons (htake _ hmore), ih hdash]
    rfl

/-- Where all that is asked for are comparators, the tokens are items of the language. -/
theorem isItems_of_sources {tss : List (List Token)} {items : List Item}
    (h : List.Forall₂ Source tss items) (hts : ∀ t ∈ tss.flatten, t ≠ [] ∧ ',' ∉ t)
    (htexts : ∀ text ∈ requiredTexts items, IsComparator text) :
    IsItems Misread (requiredTexts items).length tss.flatten := by
  induction h with
  | nil => exact .nil
  | cons hws _ ih =>
    rw [requiredTexts_eq, List.flatMap_cons, List.forall_mem_append] at htexts
    rw [List.flatten_cons, List.forall_mem_append] at hts
    rw [requiredTexts_eq, List.flatMap_cons, List.length_append, List.flatten_cons]
    exact .cons (isItem_of_source hws hts.1 htexts.1) (ih hts.2 htexts.2)

theorem exists_sources_of_isItems (h : IsItems Misread n ts) :
    ∃ tss items, List.Forall₂ Source tss items ∧ tss.flatten = ts ∧
      (∀ ws ∈ tss, ws.head? ≠ some ['-']) ∧ (∀ text ∈ requiredTexts items, IsComparator text) ∧
      (requiredTexts items).length = n := by
  induction h with
  | nil => exact ⟨[], [], .nil, rfl, nofun, nofun, rfl⟩
  | cons hitem _ ih =>
    obtain ⟨tss, items, htss, rfl, hdash, htexts, rfl⟩ := ih
    obtain ⟨item, hsource, htext, rfl⟩ := exists_source_of_isItem hitem
    refine ⟨_ :: tss, item :: items, .cons hsource htss, rfl,
      List.forall_mem_cons.2 ⟨hitem.head?_ne_dash, hdash⟩, ?_, ?_⟩
    · rw [requiredTexts_eq, List.flatMap_cons, List.forall_mem_append]
      exact ⟨htext, htexts⟩
    · rw [requiredTexts_eq, List.flatMap_cons, List.length_append, ← requiredTexts_eq]

theorem eq_nil_of_rewritten {w : Char} {operator version : List Char}
    (hop : ∀ c ∈ operator, isOperatorChar c = true) (hw : isOperatorChar w = false)
    (h : rewritten operator version = [w]) : operator = [] ∧ version = [w] := by
  have hsign {c : Char} {cs : List Char} (hc : isOperatorChar c = true) (h : c :: cs = [w]) :
      False := by
    cases h
    rw [hw] at hc
    cases hc
  unfold rewritten at h
  split at h
  case h_1 =>
    split at h
    · exact ⟨rfl, h⟩
    · exact (hsign (by decide) h).elim
  case h_2 => exact (hsign (by decide) h).elim
  case h_3 => exact (hsign (by decide) h).elim
  case h_4 => exact (hsign (by decide) h).elim
  case h_5 hne _ _ _ =>
    obtain ⟨c, cs, rfl⟩ := List.exists_cons_of_ne_nil hne
    exact (hsign (hop c List.mem_cons_self) h).elim

theorem isOperatorChar_of_wildcard : ∀ w ∈ ['*', 'x', 'X'], isOperatorChar w = false := by
  simp [isOperatorChar]

theorem IsLoneWildcard.head?_not_operatorChar {t : Token} (h : IsLoneWildcard t) :
    ∀ c ∈ t.head?, isOperatorChar c = false := by
  cases h with
  | plain hw => simpa using isOperatorChar_of_wildcard _ hw
  | prefixed => simp [isOperatorChar]

theorem IsLoneWildcard.ne_dash {t : Token} (h : IsLoneWildcard t) : t ≠ ['-'] := by
  rintro rfl
  cases h with
  | plain hw => exact absurd hw (by decide)

/-- A requirement that is a wildcard has been written as one. -/
theorem isLoneWildcard_of_source {item : Item} {w : Char} (h : Source ts item)
    (hts : ∀ t ∈ ts, t ≠ [] ∧ ',' ∉ t) (hw : w ∈ ['*', 'x', 'X']) (htexts : item.texts = [[w]]) :
    ∃ t, ts = [t] ∧ IsLoneWildcard t := by
  cases h with
  | range _ hitem =>
    unfold itemOfRange at hitem
    split at hitem
    · cases hitem
    · cases hitem
      simp [Item.texts] at htexts
  | @comparator ts text _ hglued hitem =>
    rcases itemOf_cases hitem with ⟨version, r, rfl, -, rfl⟩ | ⟨operator, version, rfl, hop, -, rfl⟩
    · cases htexts
    · have htexts : rewritten operator (dropV version) = [w] := List.singleton_inj.1 htexts
      obtain ⟨rfl, hversion⟩ := eq_nil_of_rewritten hop (isOperatorChar_of_wildcard w hw) htexts
      have hword : IsLoneWildcard version := by
        unfold dropV at hversion
        split at hversion
        · rw [hversion]
          exact .prefixed hw
        · rw [hversion]
          exact .plain hw
      rw [List.nil_append] at hglued
      cases hglued with
      | one => exact ⟨version, rfl, hword⟩
      | @two operator t hop =>
        -- A wildcard does not begin with an operator.
        obtain ⟨c, cs, rfl⟩ := List.exists_cons_of_ne_nil (hts operator (by simp)).1
        have hc : isOperatorChar c = false := hword.head?_not_operatorChar c rfl
        rw [hop c List.mem_cons_self] at hc
        cases hc

/-- A lone wildcard, with exclusions on both sides. -/
theorem exists_wildcard_of_sources {tss : List (List Token)} {items : List Item} {w : Char}
    (h : List.Forall₂ Source tss items) (hts : ∀ t ∈ tss.flatten, t ≠ [] ∧ ',' ∉ t)
    (hw : w ∈ ['*', 'x', 'X']) (htexts : requiredTexts items = [[w]]) :
    ∃ before t behind, tss.flatten = before ++ t :: behind ∧ IsItems Misread 0 before ∧
      IsLoneWildcard t ∧ IsItems Misread 0 behind := by
  induction h with
  | nil => cases htexts
  | @cons ws item tss items hws htss ih =>
    rw [List.flatten_cons, List.forall_mem_append] at hts
    rw [requiredTexts_eq, List.flatMap_cons, List.append_eq_singleton_iff] at htexts
    rcases htexts with ⟨hnone, hmore⟩ | ⟨hone, hnone⟩
    · obtain ⟨before, t, behind, heq, hbefore, ht, hbehind⟩ := ih hts.2 hmore
      have hitem := isItem_of_source hws hts.1 (by simp [hnone])
      rw [hnone] at hitem
      exact ⟨ws ++ before, t, behind, by simp [heq], .cons hitem hbefore, ht, hbehind⟩
    · obtain ⟨t, rfl, ht⟩ := isLoneWildcard_of_source hws hts.1 hw hone
      have hbehind := isItems_of_sources htss hts.2 (by simp [requiredTexts_eq, hnone])
      rw [requiredTexts_eq, hnone] at hbehind
      exact ⟨[], t, tss.flatten, rfl, .nil, ht, hbehind⟩

theorem wildcard_cases {w : Char} (hw : w ∈ ['*', 'x', 'X']) : w = '*' ∨ w = 'x' ∨ w = 'X' := by
  simpa using hw

theorem rewritten_wildcard {w : Char} (hw : w ∈ ['*', 'x', 'X']) : rewritten [] [w] = [w] := by
  rcases wildcard_cases hw with rfl | rfl | rfl <;> rfl

theorem exists_source_of_isLoneWildcard {t : Token} (h : IsLoneWildcard t) :
    ∃ item, ∃ w ∈ ['*', 'x', 'X'], Source [t] item ∧ item.texts = [[w]] := by
  have hitem := itemOf_plain h.head?_not_operatorChar
  cases h with
  | @plain w hw =>
    have hglued : Glued [[w]] [w] := .one ⟨w, by simp, isOperatorChar_of_wildcard w hw⟩
    have htext : dropV [w] = [w] := by
      rcases wildcard_cases hw with rfl | rfl | rfl <;> rfl
    exact ⟨_, w, hw, .comparator hglued hitem, by rw [Item.texts, htext, rewritten_wildcard hw]⟩
  | @prefixed w hw =>
    have hglued : Glued [['v', w]] ['v', w] := .one ⟨'v', by simp, by decide⟩
    exact ⟨_, w, hw, .comparator hglued hitem, by rw [Item.texts, dropV, rewritten_wildcard hw]⟩

theorem comma_not_mem_requiredTexts {tss : List (List Token)} {items : List Item}
    (h : List.Forall₂ Source tss items) (hts : ∀ t ∈ tss.flatten, ',' ∉ t) :
    ∀ text ∈ requiredTexts items, ',' ∉ text := by
  induction h with
  | nil => exact nofun
  | cons hws _ ih =>
    rw [List.flatten_cons, List.forall_mem_append] at hts
    rw [requiredTexts_eq, List.flatMap_cons, List.forall_mem_append]
    exact ⟨hws.comma_not_mem hts.1, ih hts.2⟩

theorem Tokenized.forall_token {cs : List Char} (h : Tokenized ts cs) :
    ∀ t ∈ ts, t ≠ [] ∧ ∀ c ∈ t, isSeparator c = false := by
  induction h with
  | nil => exact nofun
  | gap _ _ ih => exact ih
  | word hne hw _ _ ih => exact List.forall_mem_cons.2 ⟨⟨hne, hw⟩, ih⟩

theorem exists_readAlternative_eq_ok_iff {cs : List Char} :
    (∃ a, readAlternative cs = .ok a) ↔ tokens cs ≠ [] ∧
      ∃ items, readItems (tokens cs) = .ok items ∧
        ∃ r, Requirement.ofTexts (requiredTexts items) = .ok r := by
  unfold readAlternative
  by_cases hnil : tokens cs = []
  · simp [hnil, throw, throwThe, MonadExceptOf.throw, bind, Except.bind]
  · have hempty : (tokens cs).isEmpty = false := by simpa using hnil
    simp only [hempty, Bool.false_eq_true, if_false]
    constructor
    · rintro ⟨a, h⟩
      obtain ⟨items, hitems, h⟩ := bind_eq_ok_iff.1 h
      obtain ⟨r, hr, -⟩ := bind_eq_ok_iff.1 h
      exact ⟨hnil, items, hitems, r, mapError_eq_ok_iff.1 hr⟩
    · rintro ⟨-, items, hitems, r, hr⟩
      exact ⟨⟨r, exclusions items⟩, bind_eq_ok_iff.2 ⟨items, hitems,
        bind_eq_ok_iff.2 ⟨r, mapError_eq_ok_iff.2 hr, rfl⟩⟩⟩

/-- **What is read as an alternative is one**, by the rules and the misreadings. -/
theorem exists_readAlternative_iff {cs : List Char} :
    (∃ a, readAlternative cs = .ok a) ↔ ∃ ts, Tokenized ts cs ∧ IsAlternative Misread ts := by
  rw [exists_readAlternative_eq_ok_iff]
  constructor
  · rintro ⟨hne, items, hitems, hread⟩
    refine ⟨tokens cs, tokenized_tokens cs, ?_⟩
    obtain ⟨tss, htss, hflat⟩ := exists_sources_of_readItems hitems
    have hts : ∀ t ∈ tss.flatten, t ≠ [] ∧ ',' ∉ t := by
      intro t ht
      obtain ⟨hne, hseps⟩ := (tokenized_tokens cs).forall_token t (hflat ▸ ht)
      exact ⟨hne, fun hc => absurd (hseps _ hc) (by decide)⟩
    have hcomma := comma_not_mem_requiredTexts htss fun t ht => (hts t ht).2
    rw [← hflat] at hne ⊢
    rcases (Requirement.exists_ofTexts_iff hcomma).1 hread with ⟨w, hw, hlone⟩ | ⟨htexts, hlength⟩
    · obtain ⟨before, t, behind, heq, hbefore, ht, hbehind⟩ :=
        exists_wildcard_of_sources htss hts hw hlone
      rw [heq]
      exact .wildcard hbefore ht hbehind
    · exact .items (isItems_of_sources htss hts htexts) hne hlength
  · rintro ⟨ts, htokens, h⟩
    rw [← htokens.eq_tokens]
    cases h with
    | @items n _ hitems hne hn =>
      obtain ⟨tss, items, htss, rfl, hdash, htexts, rfl⟩ := exists_sources_of_isItems hitems
      refine ⟨hne, items, readItems_flatten htss hdash, ?_⟩
      exact (Requirement.exists_ofTexts_iff fun text h => (htexts text h).comma_not_mem).2
        (.inr ⟨htexts, hn⟩)
    | @wildcard before behind t hbefore ht hbehind =>
      obtain ⟨tss, items, htss, rfl, hdash, -, hzero⟩ := exists_sources_of_isItems hbefore
      obtain ⟨tss', items', htss', rfl, hdash', -, hzero'⟩ := exists_sources_of_isItems hbehind
      obtain ⟨item, w, hw, hsource, htexts⟩ := exists_source_of_isLoneWildcard ht
      have hall : List.Forall₂ Source (tss ++ [t] :: tss') (items ++ item :: items') :=
        List.rel_append htss (.cons hsource htss')
      have hdashes : ∀ ws ∈ tss ++ [t] :: tss', ws.head? ≠ some ['-'] := by
        rw [List.forall_mem_append, List.forall_mem_cons]
        exact ⟨hdash, by simpa using ht.ne_dash, hdash'⟩
      have hread := readItems_flatten hall hdashes
      rw [List.flatten_append, List.flatten_cons, List.singleton_append] at hread
      have hlone : requiredTexts (items ++ item :: items') = [[w]] := by
        rw [requiredTexts_eq] at hzero hzero' ⊢
        rw [List.flatMap_append, List.flatMap_cons, htexts, List.length_eq_zero_iff.1 hzero,
          List.length_eq_zero_iff.1 hzero']
        rfl
      refine ⟨by simp, _, hread, ?_⟩
      rw [hlone]
      exact ⟨⟨[]⟩, by rw [Requirement.ofTexts, if_pos (isWildcard_iff.2 hw)]⟩

end Alternatives

/-! ## What all tokens have in common -/

section Common

variable {Stray : List Char → List Char → Prop} {P : Token → Prop} {n : Nat} {ts : List Token}

theorem IsItems.forall_mem (hitem : ∀ n ts, IsItem Stray n ts → ∀ t ∈ ts, P t)
    (h : IsItems Stray n ts) : ∀ t ∈ ts, P t := by
  induction h with
  | nil => exact nofun
  | cons hts _ ih => exact List.forall_mem_append.2 ⟨hitem _ _ hts, ih⟩

theorem IsAlternative.forall_mem (hitem : ∀ n ts, IsItem Stray n ts → ∀ t ∈ ts, P t)
    (hwild : ∀ t, IsLoneWildcard t → P t) (h : IsAlternative Stray ts) : ∀ t ∈ ts, P t := by
  cases h with
  | items hts => exact hts.forall_mem hitem
  | wildcard hbefore ht hbehind =>
    rw [List.forall_mem_append, List.forall_mem_cons]
    exact ⟨hbefore.forall_mem hitem, hwild _ ht, hbehind.forall_mem hitem⟩

theorem Tokenized.mem_cases {cs : List Char} {c : Char} (h : Tokenized ts cs) (hc : c ∈ cs) :
    isSeparator c = true ∨ ∃ t ∈ ts, c ∈ t := by
  induction h with
  | nil => cases hc
  | gap hs _ ih =>
    rcases List.mem_cons.1 hc with rfl | hc
    · exact .inl hs
    · exact ih hc
  | @word ts w rest _ _ _ _ ih =>
    rcases List.mem_append.1 hc with hc | hc
    · exact .inr ⟨w, List.mem_cons_self, hc⟩
    · exact (ih hc).imp_right fun ⟨t, ht, hc⟩ => ⟨t, List.mem_cons_of_mem _ ht, hc⟩

end Common

/-! ## Bars -/

section Bars

variable {n : Nat} {ts : List Token} {operator version : List Char}

theorem IsVersion.bar_not_mem (h : IsVersion version) : '|' ∉ version :=
  not_mem_of_forall h.chars (by decide)

theorem IsVersionWord.bar_not_mem (h : IsVersionWord version) : '|' ∉ version := by
  cases h with
  | plain h => exact h.bar_not_mem
  | prefixed h => simpa using h.bar_not_mem

theorem bar_not_mem_of_operator (hop : ∀ c ∈ operator, isOperatorChar c = true) :
    '|' ∉ operator :=
  not_mem_of_forall hop (by decide)

theorem Misread.bar_not_mem (h : Misread operator version) : '|' ∉ version := by
  cases h with
  | greater h | less h => simpa using h.bar_not_mem
  | wildcard k h =>
    simpa using ⟨bar_not_mem_of_operator k.isOperatorChar_of_mem_sign, h.bar_not_mem⟩

theorem Glued.bar_not_mem (h : Glued ts (operator ++ version))
    (hop : ∀ c ∈ operator, isOperatorChar c = true) (hversion : '|' ∉ version) :
    ∀ t ∈ ts, '|' ∉ t := by
  have htext : '|' ∉ operator ++ version := by
    simpa using ⟨bar_not_mem_of_operator hop, hversion⟩
  generalize operator ++ version = text at h htext
  cases h with
  | one => simpa using htext
  | two => simpa using htext

theorem IsItem.bar_not_mem (h : IsItem Misread n ts) : ∀ t ∈ ts, '|' ∉ t := by
  cases h with
  | range ha hb => simp [ha.bar_not_mem, hb.bar_not_mem]
  | @require k operator _ _ hk hversion hglued =>
    exact hglued.bar_not_mem (k.isOperatorChar_of_mem_spellings operator hk) hversion.bar_not_mem
  | exclude hversion hglued =>
    exact hglued.bar_not_mem isOperatorChar_of_mem_unequal hversion.bar_not_mem
  | stray hmis hglued => exact hglued.bar_not_mem hmis.operator.1 hmis.bar_not_mem

theorem IsLoneWildcard.bar_not_mem {t : Token} (h : IsLoneWildcard t) : '|' ∉ t := by
  cases h with
  | plain hw | prefixed hw => rcases wildcard_cases hw with rfl | rfl | rfl <;> decide

end Bars

/-! ## Operators behind a `v` -/

section VApart

variable {n : Nat} {ts : List Token} {a cs text operator version : List Char}

theorem vApart_cons_iff {c : Char} : VApart (c :: cs) ↔
    (∀ d ∈ cs.head?, c = 'v' → isOperatorChar d = false) ∧ VApart cs :=
  List.isChain_cons

theorem vApart_append_iff : VApart (a ++ cs) ↔ VApart a ∧ VApart cs ∧
    ∀ c ∈ a.getLast?, ∀ d ∈ cs.head?, c = 'v' → isOperatorChar d = false :=
  List.isChain_append

theorem vApart_of_forall (h : ∀ c ∈ cs, isOperatorChar c = false) : VApart cs := by
  induction cs with
  | nil => exact .nil
  | cons c cs ih =>
    obtain ⟨-, hcs⟩ := List.forall_mem_cons.1 h
    exact vApart_cons_iff.2 ⟨fun d hd _ => hcs d (List.mem_of_mem_head? hd), ih hcs⟩

theorem vApart_operator_append_iff (hop : ∀ c ∈ operator, isOperatorChar c = true) :
    VApart (operator ++ version) ↔ VApart version := by
  induction operator with
  | nil => rfl
  | cons c operator ih =>
    obtain ⟨hc, hop⟩ := List.forall_mem_cons.1 hop
    have hne : c ≠ 'v' := by
      rintro rfl
      exact absurd hc (by decide)
    rw [List.cons_append, vApart_cons_iff, ih hop]
    simp [hne]

theorem IsVersionWord.vApart (h : IsVersionWord version) : VApart version := by
  have hchar {c : Char} (hc : c.isAlphanum = true ∨ c ∈ ['.', '*', '-', '+']) :
      isOperatorChar c = false := by
    refine Bool.eq_false_iff.2 fun hop => ?_
    simp only [isOperatorChar, Bool.or_eq_true, beq_iff_eq] at hop
    rcases hop with ((((rfl | rfl) | rfl) | rfl) | rfl) | rfl <;> exact absurd hc (by decide)
  cases h with
  | plain h => exact vApart_of_forall fun c hc => hchar (h.chars c hc)
  | prefixed h =>
    exact vApart_of_forall (List.forall_mem_cons.2 ⟨by decide, fun c hc => hchar (h.chars c hc)⟩)

theorem Glued.vApart_iff (h : Glued ts text) : VApart text ↔ ∀ t ∈ ts, VApart t := by
  cases h with
  | one => simp
  | @two operator t hop =>
    have hoperator : VApart (operator ++ []) := (vApart_operator_append_iff hop).2 .nil
    rw [List.append_nil] at hoperator
    simp [vApart_operator_append_iff hop, hoperator]

theorem Misread.not_vApart (h : Misread operator version) : ¬ VApart version := by
  cases h with
  | greater | less => simp [vApart_cons_iff, isOperatorChar]
  | wildcard k => cases k <;> simp [vApart_cons_iff, isOperatorChar, Comparison.sign]

theorem isItem_noStray_iff :
    IsItem NoStray n ts ↔ IsItem Misread n ts ∧ ∀ t ∈ ts, VApart t := by
  constructor
  · intro h
    cases h with
    | range ha hb =>
      refine ⟨.range ha hb, ?_⟩
      simp only [List.forall_mem_cons, List.not_mem_nil]
      exact ⟨ha.vApart, .singleton _, hb.vApart, nofun⟩
    | @require k operator _ _ hk hversion hglued =>
      refine ⟨.require hk hversion hglued, hglued.vApart_iff.1 ?_⟩
      have hop := k.isOperatorChar_of_mem_spellings operator hk
      exact (vApart_operator_append_iff hop).2 hversion.vApart
    | exclude hversion hglued =>
      refine ⟨.exclude hversion hglued, hglued.vApart_iff.1 ?_⟩
      exact (vApart_operator_append_iff isOperatorChar_of_mem_unequal).2 hversion.vApart
    | stray h => exact h.elim
  · rintro ⟨h, hapart⟩
    cases h with
    | range ha hb => exact .range ha hb
    | require hk hversion hglued => exact .require hk hversion hglued
    | exclude hversion hglued => exact .exclude hversion hglued
    | stray hmis hglued =>
      have htext := hglued.vApart_iff.2 hapart
      exact absurd ((vApart_operator_append_iff hmis.operator.1).1 htext) hmis.not_vApart

theorem isItems_noStray_iff :
    IsItems NoStray n ts ↔ IsItems Misread n ts ∧ ∀ t ∈ ts, VApart t := by
  constructor
  · intro h
    refine ⟨?_, h.forall_mem fun _ _ h => (isItem_noStray_iff.1 h).2⟩
    induction h with
    | nil => exact .nil
    | cons hitem _ ih => exact .cons (isItem_noStray_iff.1 hitem).1 ih
  · rintro ⟨h, hapart⟩
    induction h with
    | nil => exact .nil
    | cons hitem _ ih =>
      rw [List.forall_mem_append] at hapart
      exact .cons (isItem_noStray_iff.2 ⟨hitem, hapart.1⟩) (ih hapart.2)

theorem isAlternative_noStray_iff :
    IsAlternative NoStray ts ↔ IsAlternative Misread ts ∧ ∀ t ∈ ts, VApart t := by
  have hwild (t : Token) (h : IsLoneWildcard t) : VApart t := by
    cases h with
    | plain => exact .singleton _
    | @prefixed w hw =>
      have hw : isOperatorChar w = false := isOperatorChar_of_wildcard w hw
      exact vApart_of_forall (by simpa [hw] using (by decide : isOperatorChar 'v' = false))
  constructor
  · intro h
    refine ⟨?_, h.forall_mem (fun _ _ h => (isItem_noStray_iff.1 h).2) hwild⟩
    cases h with
    | items hts hne hn => exact .items (isItems_noStray_iff.1 hts).1 hne hn
    | wildcard hbefore ht hbehind =>
      exact .wildcard (isItems_noStray_iff.1 hbefore).1 ht (isItems_noStray_iff.1 hbehind).1
  · rintro ⟨h, hapart⟩
    cases h with
    | items hts hne hn => exact .items (isItems_noStray_iff.2 ⟨hts, hapart⟩) hne hn
    | wildcard hbefore ht hbehind =>
      rw [List.forall_mem_append, List.forall_mem_cons] at hapart
      exact .wildcard (isItems_noStray_iff.2 ⟨hbefore, hapart.1⟩) ht
        (isItems_noStray_iff.2 ⟨hbehind, hapart.2.2⟩)

theorem not_operatorChar_of_isSeparator {c : Char} (h : isSeparator c = true) :
    isOperatorChar c = false := by
  refine Bool.eq_false_iff.2 fun hop => ?_
  rw [not_separator_of_isOperatorChar hop] at h
  cases h

theorem Tokenized.vApart_iff (h : Tokenized ts cs) : VApart cs ↔ ∀ t ∈ ts, VApart t := by
  induction h with
  | nil => simp [VApart]
  | @gap _ s _ hs _ ih =>
    have hne : s ≠ 'v' := by
      rintro rfl
      exact absurd hs (by decide)
    rw [vApart_cons_iff, ih]
    simp [hne]
  | word _ _ hrest _ ih =>
    rw [vApart_append_iff, ih, List.forall_mem_cons]
    constructor
    · exact fun h => ⟨h.1, h.2.1⟩
    · exact fun h => ⟨h.1, h.2, fun _ _ d hd _ => not_operatorChar_of_isSeparator (hrest d hd)⟩

/-- Bars keep apart what they stand between. -/
theorem joinedAt_and_vApart_iff {Part : List Char → Prop} :
    JoinedAt (fun a => Part a ∧ VApart a) '|' '|' cs ↔ JoinedAt Part '|' '|' cs ∧ VApart cs := by
  have hbars {w rest : List Char} :
      VApart (w ++ '|' :: '|' :: rest) ↔ VApart w ∧ VApart rest := by
    simp [vApart_append_iff, vApart_cons_iff, isOperatorChar]
  constructor
  · intro h
    induction h with
    | one hw => exact ⟨.one hw.1, hw.2⟩
    | more hw _ ih => exact ⟨.more hw.1 ih.1, hbars.2 ⟨hw.2, ih.2⟩⟩
  · rintro ⟨h, hapart⟩
    induction h with
    | one hw => exact .one ⟨hw, hapart⟩
    | more hw _ ih =>
      obtain ⟨hfirst, hrest⟩ := hbars.1 hapart
      exact .more ⟨hw, hfirst⟩ (ih hrest)

theorem inLanguage_noStray_iff : InLanguage NoStray cs ↔ InLanguage Misread cs ∧ VApart cs := by
  have hpart (a : List Char) : (∃ ts, Tokenized ts a ∧ IsAlternative NoStray ts) ↔
      (∃ ts, Tokenized ts a ∧ IsAlternative Misread ts) ∧ VApart a := by
    constructor
    · rintro ⟨ts, hts, h⟩
      obtain ⟨halt, hapart⟩ := isAlternative_noStray_iff.1 h
      exact ⟨⟨ts, hts, halt⟩, hts.vApart_iff.2 hapart⟩
    · rintro ⟨⟨ts, hts, halt⟩, hapart⟩
      exact ⟨ts, hts, isAlternative_noStray_iff.2 ⟨halt, hts.vApart_iff.1 hapart⟩⟩
  unfold InLanguage
  rw [← joinedAt_and_vApart_iff, funext fun a => propext (hpart a)]

end VApart

/-! ## Main statement -/

theorem exists_ofChars_iff {cs : List Char} :
    (∃ c, ofChars cs = .ok c) ↔ InLanguage Misread cs := by
  have hbar (a : List Char) (h : ∃ ts, Tokenized ts a ∧ IsAlternative Misread ts) : '|' ∉ a := by
    obtain ⟨ts, hts, halt⟩ := h
    intro hc
    rcases hts.mem_cases hc with hsep | ⟨t, ht, hc⟩
    · exact absurd hsep (by decide)
    · exact halt.forall_mem (fun _ _ h => h.bar_not_mem) (fun _ h => h.bar_not_mem) t ht hc
  rw [InLanguage, joinedAt_iff hbar]
  simp only [← exists_readAlternative_iff]
  rw [← exists_mapM_eq_ok_iff]
  constructor
  · rintro ⟨c, h⟩
    obtain ⟨alternatives, h, -⟩ := map_eq_ok_iff.1 h
    exact ⟨alternatives, h⟩
  · rintro ⟨alternatives, h⟩
    exact ⟨⟨alternatives⟩, by rw [ofChars, h]; rfl⟩

/-- **The texts that are read as constraints** are those of the language and the misread ones, which
are told from the others by an operator character behind a `v`. -/
theorem exists_parse_iff (s : String) :
    ((∃ c, parse s = .ok c) ↔ InLanguage Misread s.toList) ∧
      (InLanguage NoStray s.toList ↔ (∃ c, parse s = .ok c) ∧ VApart s.toList) := by
  have hread : (∃ c, parse s = .ok c) ↔ InLanguage Misread s.toList := exists_ofChars_iff
  exact ⟨hread, by rw [hread, inLanguage_noStray_iff]⟩

/-- An equals sign behind the `v` joins the operator in front of it. -/
theorem misread_greater : (∃ c, parse ">v=1.2" = .ok c) ∧ ¬ InLanguage NoStray ">v=1.2".toList := by
  constructor
  · let p : PartialVersion := ⟨1, [2], by decide, by decide⟩
    let t : Token := ['>'] ++ 'v' :: '=' :: p.text []
    have hversion : IsVersion (p.text []) := .parts ⟨nofun, by decide⟩
    have hitem : IsItem Misread 1 [t] :=
      .stray (.greater hversion) (.one ⟨'v', List.mem_cons_of_mem _ List.mem_cons_self, by decide⟩)
    have halternative : IsAlternative Misread [t] :=
      .items (.cons hitem .nil) (List.cons_ne_nil _ _) (by decide)
    have htokens : tokens ">v=1.2".toList = [t] := by decide
    exact exists_ofChars_iff.2 (.one ⟨[t], htokens ▸ tokenized_tokens _, halternative⟩)
  · intro h
    have hapart : VApart ">v=1.2".toList := (inLanguage_noStray_iff.1 h).2
    revert hapart
    unfold VApart
    decide

end ImageGate.Constraint
