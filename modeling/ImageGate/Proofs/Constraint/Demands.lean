import ImageGate.Proofs.Constraint.Comparators
import ImageGate.Proofs.Constraint.Exact

/-!
# What alternatives demand

The items of an alternative require comparators or exclude them (`Demands`). Which comparator an
operator in front of a version stands for can be told from the two alone (`Asks`), and a lone
wildcard requires nothing. Every alternative that is read demands something in this way
(`exists_demandsAll_of_isAlternative`), and it is read as nothing else
(`DemandsAll.eq_of_readAlternative`): an excluded comparator is never required, nor the other way
round.
-/

namespace ImageGate.Constraint

open Text Version Comparator

/-! ## What items demand -/

/-- The comparator that a comparison with a version stands for. -/
inductive Stands (k : Comparison) : List Char → Comparator → Prop
  | parts {p : PartialVersion} {wildcards : List Char} : p.AllowsWildcards wildcards →
      Stands k (p.text wildcards) (p.comparator k)
  | full {v : Version} : v.IsValid → Stands k v.text (ofVersion k v)

/-- The comparator that an operator in front of a version asks for, misread ones included. Without
an operator it is an exact match, but for full versions with a wildcard among their pieces. -/
inductive Asks : List Char → List Char → Comparator → Prop
  | operator {k : Comparison} {operator version : List Char} {c : Comparator} :
      operator ∈ k.spellings → operator ≠ [] → Stands k (dropV version) c →
      Asks operator version c
  | parts {p : PartialVersion} {wildcards version : List Char} : p.AllowsWildcards wildcards →
      dropV version = p.text wildcards → Asks [] version (p.comparator .exact)
  | full {v : Version} {version : List Char} : v.IsValid → ¬ HasWildcardPart v.text →
      dropV version = v.text → Asks [] version (ofVersion .exact v)
  | caret {v : Version} {version : List Char} : v.IsValid → HasWildcardPart v.text →
      dropV version = v.text → Asks [] version (ofVersion .caret v)
  | greater {core : List Char} {c : Comparator} : Stands .greaterEq core c →
      Asks ['>'] ('v' :: '=' :: core) c
  | less {core : List Char} {c : Comparator} : Stands .lessEq core c →
      Asks ['<'] ('v' :: '=' :: core) c
  | wildcard {k : Comparison} {core : List Char} {c : Comparator} : Stands k core c →
      HasWildcardPart (k.sign ++ core) → Asks [] ('v' :: (k.sign ++ core)) c

/-- The tokens of an item, the comparators that it requires and those that it excludes. -/
inductive Demands : List Token → List Comparator → List Comparator → Prop
  | range {a b : Token} {c d : Comparator} : Stands .greaterEq (dropV a) c →
      Stands .lessEq (dropV b) d → Demands [a, ['-'], b] [c, d] []
  | require {operator version : List Char} {ts : List Token} {c : Comparator} :
      Asks operator version c → Glued ts (operator ++ version) → Demands ts [c] []
  | wildcard {t : Token} : IsLoneWildcard t → Demands [t] [] []
  | exclude {version : List Char} {ts : List Token} {c : Comparator} :
      Stands .exact (dropV version) c → Glued ts (['!', '='] ++ version) → Demands ts [] [c]

/-- The tokens of items one behind the other, and what they require and exclude in all. -/
inductive DemandsAll : List Token → List Comparator → List Comparator → Prop
  | nil : DemandsAll [] [] []
  | cons {ts more : List Token} {required excluded required' excluded' : List Comparator} :
      Demands ts required excluded → DemandsAll more required' excluded' →
      DemandsAll (ts ++ more) (required ++ required') (excluded ++ excluded')

section Stands

variable {k : Comparison} {core operator version : List Char} {c : Comparator}

theorem Stands.isVersion (h : Stands k core c) : IsVersion core := by
  cases h with
  | parts h => exact .parts h
  | full h => exact .full h

theorem exists_stands (k : Comparison) (h : IsVersion core) : ∃ c, Stands k core c := by
  cases h with
  | parts h => exact ⟨_, .parts h⟩
  | full h => exact ⟨_, .full h⟩

theorem Stands.reads (h : Stands k core c) : Reads (k.sign ++ core) c := by
  cases h with
  | parts h => exact reads_sign k h
  | full h => exact reads_sign_full k h

theorem Stands.isProper (h : Stands k core c) : c.IsProper ∧ c.comparison = k := by
  cases h with
  | @parts p =>
    refine ⟨⟨fun hminor => ?_, fun _ => rfl, nofun⟩, rfl⟩
    have hlength : p.more.length ≤ 0 := List.getElem?_eq_none_iff.1 hminor
    exact List.getElem?_eq_none (Nat.le_succ_of_le hlength)
  | full h => exact ⟨⟨nofun, nofun, h.pre⟩, rfl⟩

/-- All spellings of a comparison are rewritten to one. -/
theorem rewritten_of_mem_spellings (hop : operator ∈ k.spellings) (hne : operator ≠ []) :
    rewritten operator core = k.sign ++ core := by
  cases k <;> simp only [Comparison.spellings, List.mem_cons, List.not_mem_nil, or_false] at hop
  case exact =>
    rcases hop with rfl | rfl | rfl
    · exact absurd rfl hne
    · rfl
    · rfl
  case greaterEq | lessEq =>
    rcases hop with rfl | rfl <;> rfl
  all_goals
    rw [hop]
    rfl

theorem Asks.reads (h : Asks operator version c) :
    Reads (rewritten operator (dropV version)) c := by
  have hwild {text : List Char} (h : IsComparator text) :
      hasWildcard text = true ↔ HasWildcardPart text := hasWildcard_iff h.head?_not_wildcard
  cases h with
  | operator hop hne h =>
    rw [rewritten_of_mem_spellings hop hne]
    exact h.reads
  | @parts p wildcards _ h heq =>
    rw [heq, rewritten]
    split
    case isTrue hpart =>
      refine reads_text h fun hnil => ?_
      rw [hnil, hasWildcard_text_nil] at hpart
      cases hpart
    case isFalse => exact reads_sign .exact h
  | full hv hnot heq =>
    rw [heq, rewritten, if_neg (mt (hwild (.plain (.full hv))).1 hnot)]
    exact reads_sign_full .exact hv
  | caret hv hpart heq =>
    rw [heq, rewritten, if_pos ((hwild (.plain (.full hv))).2 hpart)]
    exact reads_full hv
  | greater h => exact h.reads
  | less h => exact h.reads
  | @wildcard k core _ h hpart =>
    have hsign : rewritten [] (k.sign ++ core) = k.sign ++ core := by
      rw [rewritten, if_pos ((hwild (.sign k h.isVersion)).2 hpart)]
    rw [dropV, hsign]
    exact h.reads

/-- What is asked for is written by the rules or misread. -/
theorem Asks.isVersionWord_or_misread (h : Asks operator version c) :
    (∃ k : Comparison, operator ∈ k.spellings ∧ IsVersionWord version) ∨
      Misread operator version := by
  have hbare (h : IsVersion (dropV version)) :
      ∃ k : Comparison, [] ∈ k.spellings ∧ IsVersionWord version :=
    ⟨.exact, List.mem_cons_self, isVersionWord_iff.2 h⟩
  cases h with
  | operator hop _ h => exact .inl ⟨_, hop, isVersionWord_iff.2 h.isVersion⟩
  | parts h heq => exact .inl (hbare (heq ▸ .parts h))
  | full hv _ heq => exact .inl (hbare (heq ▸ .full hv))
  | caret hv _ heq => exact .inl (hbare (heq ▸ .full hv))
  | greater h => exact .inr (.greater h.isVersion)
  | less h => exact .inr (.less h.isVersion)
  | wildcard h hpart => exact .inr (.wildcard _ h.isVersion hpart)

theorem exists_asks (h : (∃ k : Comparison, operator ∈ k.spellings ∧ IsVersionWord version) ∨
    Misread operator version) : ∃ c, Asks operator version c := by
  rcases h with ⟨k, hop, h⟩ | h
  · by_cases hne : operator = []
    · subst hne
      generalize hcore : dropV version = core at *
      have hversion : IsVersion core := hcore ▸ isVersionWord_iff.1 h
      cases hversion with
      | parts hparts => exact ⟨_, .parts hparts hcore⟩
      | @full v hv =>
        by_cases hpart : HasWildcardPart v.text
        · exact ⟨_, .caret hv hpart hcore⟩
        · exact ⟨_, .full hv hpart hcore⟩
    · obtain ⟨c, hc⟩ := exists_stands k (isVersionWord_iff.1 h)
      exact ⟨c, .operator hop hne hc⟩
  · cases h with
    | greater h =>
      obtain ⟨c, hc⟩ := exists_stands .greaterEq h
      exact ⟨c, .greater hc⟩
    | less h =>
      obtain ⟨c, hc⟩ := exists_stands .lessEq h
      exact ⟨c, .less hc⟩
    | wildcard k h hpart =>
      obtain ⟨c, hc⟩ := exists_stands k h
      exact ⟨c, .wildcard hc hpart⟩

theorem Asks.isProper (h : Asks operator version c) : c.IsProper := by
  cases h with
  | operator _ _ h | greater h | less h | wildcard h => exact h.isProper.1
  | @parts p _ _ h => exact (Stands.parts (k := .exact) h).isProper.1
  | full hv => exact (Stands.full (k := .exact) hv).isProper.1
  | caret hv => exact (Stands.full (k := .caret) hv).isProper.1

theorem Asks.source {ts : List Token} (h : Asks operator version c)
    (hglued : Glued ts (operator ++ version)) :
    Source ts (.required [rewritten operator (dropV version)]) ∧ ts.head? ≠ some ['-'] := by
  rcases h.isVersionWord_or_misread with ⟨k, hop, hversion⟩ | hmis
  · have hne : operator ≠ ['!', '='] := by
      rintro rfl
      cases k <;> simp [Comparison.spellings] at hop
    have hitem := itemOf_append (k.isOperatorChar_of_mem_spellings operator hop)
      hversion.head?_not_operatorChar hne
    exact ⟨.comparator hglued hitem, hglued.head?_ne_dash hversion.exists_isDigit⟩
  · have hne : operator ≠ ['!', '='] := by
      rintro rfl
      cases hmis
    have hitem := itemOf_append hmis.operator.1 hmis.operator.2 hne
    exact ⟨.comparator hglued hitem, hglued.head?_ne_dash hmis.exists_isDigit⟩

end Stands

/-! ## What is required and excluded -/

/-- The comparators that texts are read as, one by one. A lone wildcard is read as none. -/
inductive AllRead : List (List Char) → List Comparator → Prop
  | nil : AllRead [] []
  | cons {text : List Char} {c : Comparator} {texts : List (List Char)} {cs : List Comparator} :
      Reads text c → AllRead texts cs → AllRead (text :: texts) (c :: cs)
  | wildcard {w : Char} {texts : List (List Char)} {cs : List Comparator} :
      w ∈ ['*', 'x', 'X'] → AllRead texts cs → AllRead ([w] :: texts) cs

section Demands

variable {a : List Char} {ts : List Token} {required excluded : List Comparator}
  {texts texts' : List (List Char)} {cs cs' : List Comparator}

theorem AllRead.append (h : AllRead texts cs) (h' : AllRead texts' cs') :
    AllRead (texts ++ texts') (cs ++ cs') := by
  induction h with
  | nil => exact h'
  | cons hread _ ih => exact .cons hread ih
  | wildcard hw _ ih => exact .wildcard hw ih

theorem AllRead.forall₂ (h : AllRead texts cs) (htexts : ∀ text ∈ texts, IsComparator text) :
    List.Forall₂ Reads texts cs := by
  induction h with
  | nil => exact .nil
  | cons hread _ ih =>
    exact .cons hread (ih fun text ht => htexts text (List.mem_cons_of_mem _ ht))
  | wildcard hw =>
    have hhead := (htexts _ List.mem_cons_self).head?_not_wildcard _ rfl
    rw [isWildcard_iff.2 hw] at hhead
    cases hhead

theorem AllRead.eq_of_ofTexts {r : Requirement} (h : AllRead texts cs)
    (hcomma : ∀ text ∈ texts, ',' ∉ text) (hread : Requirement.ofTexts texts = .ok r) :
    r = ⟨cs⟩ := by
  rcases (Requirement.exists_ofTexts_iff hcomma).1 ⟨r, hread⟩ with ⟨w, hw, rfl⟩ | ⟨htexts, hsize⟩
  · rw [Requirement.ofTexts, if_pos (isWildcard_iff.2 hw)] at hread
    cases hread
    cases h with
    | cons hread =>
      obtain ⟨d, ds, heq, hd⟩ := hread.head
      obtain rfl := (List.cons.inj heq).1
      rw [isWildcard_iff.2 hw] at hd
      cases hd
    | wildcard _ h =>
      cases h
      rfl
  · rw [Requirement.ofTexts_eq_ok (h.forall₂ htexts) hsize] at hread
    exact (Except.ok.inj hread).symm

/-- What an item demands is what becomes of its tokens. -/
theorem Demands.exists_source (h : Demands ts required excluded) :
    ∃ item, Source ts item ∧ ts.head? ≠ some ['-'] ∧ AllRead item.texts required ∧
      exclusions [item] = excluded.map fun c => ⟨[c]⟩ := by
  cases h with
  | @range a b c d hc hd =>
    have ha : IsVersionWord a := isVersionWord_iff.2 hc.isVersion
    have hb : IsVersionWord b := isVersionWord_iff.2 hd.isVersion
    have hoperator {version : Token} (h : IsVersionWord version) :
        startsWithOperator version = false :=
      (Option.any_eq_false _ _).2 fun c hc => by simp [h.head?_not_operatorChar c hc]
    have hitem : itemOfRange a b =
        .ok (.required ['>' :: '=' :: dropV a, '<' :: '=' :: dropV b]) := by
      simp [itemOfRange, hoperator ha, hoperator hb]
    exact ⟨_, .range ha.glued hitem, by simpa using ha.ne_dash,
      .cons hc.reads (.cons hd.reads .nil), rfl⟩
  | require hasks hglued =>
    obtain ⟨hsource, hdash⟩ := hasks.source hglued
    exact ⟨_, hsource, hdash, .cons hasks.reads .nil, rfl⟩
  | wildcard ht =>
    obtain ⟨item, w, hw, hsource, htexts⟩ := exists_source_of_isLoneWildcard ht
    refine ⟨item, hsource, by simpa using ht.ne_dash, htexts ▸ .wildcard hw .nil, ?_⟩
    cases item with
    | required => rfl
    | excluded => cases htexts
  | @exclude version _ c hc hglued =>
    have hversion : IsVersionWord version := isVersionWord_iff.2 hc.isVersion
    have hitem := (itemOf_exclude_iff hversion.head?_not_operatorChar).2
      ⟨_, Requirement.ofTexts_singleton hc.reads, rfl⟩
    exact ⟨_, .comparator hglued hitem, hglued.head?_ne_dash hversion.exists_isDigit, .nil, rfl⟩

theorem DemandsAll.exists_sources (h : DemandsAll ts required excluded) :
    ∃ tss items, List.Forall₂ Source tss items ∧ tss.flatten = ts ∧
      (∀ ws ∈ tss, ws.head? ≠ some ['-']) ∧ AllRead (requiredTexts items) required ∧
      exclusions items = excluded.map fun c => ⟨[c]⟩ := by
  induction h with
  | nil => exact ⟨[], [], .nil, rfl, nofun, .nil, rfl⟩
  | cons hitem _ ih =>
    obtain ⟨tss, items, htss, rfl, hdash, htexts, hexcluded⟩ := ih
    obtain ⟨item, hsource, hhead, htext, hexclude⟩ := hitem.exists_source
    refine ⟨_ :: tss, item :: items, .cons hsource htss, rfl,
      List.forall_mem_cons.2 ⟨hhead, hdash⟩, ?_, ?_⟩
    · rw [requiredTexts_eq, List.flatMap_cons]
      exact htext.append htexts
    · rw [List.map_append, ← hexclude, ← hexcluded]
      show exclusions ([item] ++ items) = _
      exact List.filterMap_append

/-- **An alternative is read as what its items demand.** -/
theorem DemandsAll.eq_of_readAlternative {alternative : Alternative}
    (h : DemandsAll ts required excluded) (htokens : Tokenized ts a)
    (hread : readAlternative a = .ok alternative) :
    alternative = ⟨⟨required⟩, excluded.map fun c => ⟨[c]⟩⟩ := by
  obtain ⟨tss, items, htss, rfl, hdash, htexts, hexcluded⟩ := h.exists_sources
  have hcomma : ∀ text ∈ requiredTexts items, ',' ∉ text :=
    comma_not_mem_requiredTexts htss fun t ht hc =>
      absurd ((htokens.forall_token t ht).2 _ hc) (by decide)
  have hitems := readItems_flatten htss hdash
  unfold readAlternative at hread
  rw [← htokens.eq_tokens] at hread
  dsimp only at hread
  split at hread
  · cases hread
  · obtain ⟨items', hitems', hread⟩ := bind_eq_ok_iff.1 hread
    obtain rfl := Except.ok.inj (hitems.symm.trans hitems')
    obtain ⟨r, hr, hread⟩ := bind_eq_ok_iff.1 hread
    obtain rfl := htexts.eq_of_ofTexts hcomma (mapError_eq_ok_iff.1 hr)
    rw [← hexcluded]
    exact (Except.ok.inj hread).symm

theorem exists_demands_of_isItem {n : Nat} (h : IsItem Misread n ts) :
    ∃ required excluded, Demands ts required excluded := by
  cases h with
  | range ha hb =>
    obtain ⟨c, hc⟩ := exists_stands .greaterEq (isVersionWord_iff.1 ha)
    obtain ⟨d, hd⟩ := exists_stands .lessEq (isVersionWord_iff.1 hb)
    exact ⟨_, _, .range hc hd⟩
  | require hop hversion hglued =>
    obtain ⟨c, hc⟩ := exists_asks (.inl ⟨_, hop, hversion⟩)
    exact ⟨_, _, .require hc hglued⟩
  | exclude hversion hglued =>
    obtain ⟨c, hc⟩ := exists_stands .exact (isVersionWord_iff.1 hversion)
    exact ⟨_, _, .exclude hc hglued⟩
  | stray hmis hglued =>
    obtain ⟨c, hc⟩ := exists_asks (.inr hmis)
    exact ⟨_, _, .require hc hglued⟩

theorem exists_demandsAll_of_isItems {n : Nat} (h : IsItems Misread n ts) :
    ∃ required excluded, DemandsAll ts required excluded := by
  induction h with
  | nil => exact ⟨_, _, .nil⟩
  | cons hitem _ ih =>
    obtain ⟨_, _, hfirst⟩ := exists_demands_of_isItem hitem
    obtain ⟨_, _, hmore⟩ := ih
    exact ⟨_, _, .cons hfirst hmore⟩

theorem DemandsAll.append {ts' : List Token} {required' excluded' : List Comparator}
    (h : DemandsAll ts required excluded) (h' : DemandsAll ts' required' excluded') :
    DemandsAll (ts ++ ts') (required ++ required') (excluded ++ excluded') := by
  induction h with
  | nil => exact h'
  | cons hitem _ ih =>
    rw [List.append_assoc, List.append_assoc, List.append_assoc]
    exact .cons hitem ih

/-- Everything that is read as an alternative demands something, or nothing but exclusions. -/
theorem exists_demandsAll_of_isAlternative (h : IsAlternative Misread ts) :
    ∃ required excluded, DemandsAll ts required excluded := by
  cases h with
  | items hts => exact exists_demandsAll_of_isItems hts
  | wildcard hbefore ht hbehind =>
    obtain ⟨_, _, hfirst⟩ := exists_demandsAll_of_isItems hbefore
    obtain ⟨_, _, hlast⟩ := exists_demandsAll_of_isItems hbehind
    exact ⟨_, _, hfirst.append (.cons (.wildcard ht) hlast)⟩

theorem DemandsAll.isProper (h : DemandsAll ts required excluded) :
    (∀ c ∈ required, c.IsProper) ∧ ∀ c ∈ excluded, c.IsProper ∧ c.comparison = .exact := by
  induction h with
  | nil => exact ⟨nofun, nofun⟩
  | cons hitem _ ih =>
    rw [List.forall_mem_append, List.forall_mem_append]
    cases hitem with
    | range hc hd => exact ⟨⟨by simp [hc.isProper.1, hd.isProper.1], ih.1⟩, nofun, ih.2⟩
    | require hc => exact ⟨⟨by simpa using hc.isProper, ih.1⟩, nofun, ih.2⟩
    | wildcard => exact ⟨⟨nofun, ih.1⟩, nofun, ih.2⟩
    | exclude hc => exact ⟨⟨nofun, ih.1⟩, by simpa using hc.isProper, ih.2⟩

end Demands

end ImageGate.Constraint
