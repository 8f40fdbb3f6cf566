import EmbeddedSdk.MqttConfig
import EmbeddedSdk.SeparatedText

/-!
# The grammar of topic names and filters

Validation looks at the levels between slashes and counts them; the grammar of
the protocol speaks of single characters and their neighbours. Both say the same.
-/
namespace EmbeddedSdk.Mqtt
open SeparatedText

/-- A single-level wildcard fills a level: it has a slash or an end of the text
on either side. -/
def PlusFillsLevel (text : List Char) : Prop :=
  ∀ before behind, text = before ++ '+' :: behind → AtStart '/' before ∧ AtEnd '/' behind

/-- A multi-level wildcard is the last level. -/
def HashEndsText (text : List Char) : Prop :=
  ∀ before behind, text = before ++ '#' :: behind → AtStart '/' before ∧ behind = []

/-- The topic filters of the protocol, up to the length that the SDK accepts. -/
structure IsTopicFilter (s : String) : Prop where
  length : 1 ≤ s.utf8ByteSize ∧ s.utf8ByteSize ≤ 256
  noNull : '\x00' ∉ s.toList
  plus : PlusFillsLevel s.toList
  hash : HashEndsText s.toList

/-- A level that the validator lets pass. -/
structure ValidLevel (levelCount index : ℕ) (level : List Char) : Prop where
  noNull : '\x00' ∉ level
  plus : '+' ∈ level → level = ['+']
  hash : '#' ∈ level → level = ['#'] ∧ index + 1 = levelCount

theorem invalidLevel_eq_false {levelCount index : ℕ} {level : List Char} :
    invalidLevel levelCount index level = false ↔ ValidLevel levelCount index level := by
  simp only [invalidLevel, Bool.or_eq_false_iff, Bool.and_eq_false_iff, bne_eq_false_iff_eq,
    List.contains_eq_mem, decide_eq_false_iff_not]
  constructor
  · intro h
    obtain ⟨⟨hnull, hplus⟩, hhash⟩ := h
    exact ⟨hnull, fun hmem => hplus.resolve_left (not_not_intro hmem),
      fun hmem => hhash.resolve_left (not_not_intro hmem)⟩
  · intro h
    refine ⟨⟨h.noNull, ?_⟩, ?_⟩
    · by_cases hmem : '+' ∈ level
      · exact .inr (h.plus hmem)
      · exact .inl hmem
    · by_cases hmem : '#' ∈ level
      · exact .inr (h.hash hmem)
      · exact .inl hmem

theorem validateTopicFilter_isOk (s : String) :
    (validateTopicFilter s).isOk = true ↔
      ∀ index level, (s.toList.splitOn '/')[index]? = some level →
        ValidLevel (s.toList.count '/' + 1) index level := by
  have hok : (validateTopicFilter s).isOk = true ↔
      ((s.toList.splitOn '/').zipIdx.any fun entry =>
        invalidLevel (s.toList.splitOn '/').length entry.2 entry.1) = false := by
    unfold validateTopicFilter
    dsimp only
    split
    · rename_i h
      simp [Except.isOk, Except.toBool, h]
    · rename_i h
      simp [Except.isOk, Except.toBool, h]
  rw [hok, List.any_eq_false, length_splitOn]
  constructor
  · intro h index level hlevel
    have hmem := List.mk_mem_zipIdx_iff_getElem?.mpr hlevel
    exact invalidLevel_eq_false.mp (Bool.not_eq_true _ ▸ h _ hmem)
  · intro h entry hentry
    have hvalid := h entry.2 entry.1 (List.mem_zipIdx_iff_getElem?.mp hentry)
    rw [Bool.not_eq_true]
    exact invalidLevel_eq_false.mpr hvalid

/-- Levels are valid when the characters of the text are in their places. -/
theorem validLevel_of_isTopicFilter {text level : List Char} {index : ℕ} (hnull : '\x00' ∉ text)
    (hplus : PlusFillsLevel text) (hhash : HashEndsText text)
    (h : (text.splitOn '/')[index]? = some level) :
    ValidLevel (text.count '/' + 1) index level := by
  obtain ⟨before, behind, rfl, hslash, hstart, hend, hcount⟩ := isPiece_of_getElem?_splitOn h
  -- what stands left and right of a character inside its level
  have haround : ∀ c, c ∈ level → ∃ left right, level = left ++ c :: right ∧
      '/' ∉ left ∧ '/' ∉ right ∧
      before ++ (level ++ behind) = (before ++ left) ++ c :: (right ++ behind) := by
    intro c hc
    obtain ⟨left, right, rfl⟩ := List.append_of_mem hc
    rw [List.mem_append, not_or, List.mem_cons, not_or] at hslash
    exact ⟨left, right, rfl, hslash.1, hslash.2.2, by simp⟩
  constructor
  · intro hmem
    exact hnull (by simp [hmem])
  · intro hmem
    obtain ⟨left, right, hlevel, hleft, hright, htext⟩ := haround '+' hmem
    obtain ⟨hbefore, hbehind⟩ := hplus _ _ htext
    rw [hlevel, hbefore.eq_nil_of_append hleft, hbehind.eq_nil_of_append hright, List.nil_append]
  · intro hmem
    obtain ⟨left, right, hlevel, hleft, hright, htext⟩ := haround '#' hmem
    obtain ⟨hbefore, hbehind⟩ := hhash _ _ htext
    obtain ⟨hright', hbehind'⟩ := List.append_eq_nil_iff.mp hbehind
    refine ⟨?_, ?_⟩
    · rw [hlevel, hbefore.eq_nil_of_append hleft, hright', List.nil_append]
    · rw [hbehind', List.append_nil, List.count_append, List.count_eq_zero.mpr hslash, hcount]

/-- A character that no slash is belongs to a level. -/
theorem exists_level_around (before behind : List Char) {c : Char} (hc : c ≠ '/') :
    ∃ pre left right post, before = pre ++ left ∧ behind = right ++ post ∧ '/' ∉ right ∧
      AtStart '/' pre ∧ AtEnd '/' post ∧
      ((before ++ c :: behind).splitOn '/')[pre.count '/']? = some (left ++ c :: right) ∧
      (before ++ c :: behind).count '/' = pre.count '/' + post.count '/' := by
  obtain ⟨pre, left, rfl, hleft, hstart⟩ := exists_atStart_append '/' before
  obtain ⟨right, post, rfl, hright, hend⟩ := exists_append_atEnd '/' behind
  have hslash : '/' ∉ left ++ c :: right := by simp [hleft, hright, Ne.symm hc]
  have htext : (pre ++ left) ++ c :: (right ++ post) = pre ++ ((left ++ c :: right) ++ post) := by
    simp
  refine ⟨pre, left, right, post, rfl, rfl, hright, hstart, hend, ?_, ?_⟩
  · rw [htext]
    exact getElem?_splitOn_of_isPiece hslash hstart hend
  · rw [htext, List.count_append, List.count_append, List.count_eq_zero.mpr hslash, Nat.zero_add]

theorem eq_nil_of_append_cons_eq_singleton {left right : List Char} {c : Char}
    (h : left ++ c :: right = [c]) : left = [] ∧ right = [] := by
  have hlength := congrArg List.length h
  rw [List.length_append, List.length_cons, List.length_singleton] at hlength
  exact ⟨List.length_eq_zero_iff.mp (by omega), List.length_eq_zero_iff.mp (by omega)⟩

/-- The characters are in their places when the levels are valid. -/
theorem places_of_validLevel {text : List Char}
    (h : ∀ index level, (text.splitOn '/')[index]? = some level →
      ValidLevel (text.count '/' + 1) index level) :
    '\x00' ∉ text ∧ PlusFillsLevel text ∧ HashEndsText text := by
  refine ⟨?_, ?_, ?_⟩
  · intro hmem
    obtain ⟨before, behind, rfl⟩ := List.append_of_mem hmem
    obtain ⟨pre, left, right, post, -, -, -, -, -, hlevel, -⟩ :=
      exists_level_around before behind (c := '\x00') (by decide)
    exact (h _ _ hlevel).noNull (by simp)
  · intro before behind htext
    subst htext
    obtain ⟨pre, left, right, post, rfl, rfl, -, hstart, hend, hlevel, -⟩ :=
      exists_level_around before behind (c := '+') (by decide)
    have hfills := (h _ _ hlevel).plus (by simp)
    obtain ⟨rfl, rfl⟩ := eq_nil_of_append_cons_eq_singleton hfills
    rw [List.append_nil, List.nil_append]
    exact ⟨hstart, hend⟩
  · intro before behind htext
    subst htext
    obtain ⟨pre, left, right, post, rfl, rfl, -, hstart, hend, hlevel, hcount⟩ :=
      exists_level_around before behind (c := '#') (by decide)
    obtain ⟨hfills, hlast⟩ := (h _ _ hlevel).hash (by simp)
    have hpost : post = [] := by
      have hzero : post.count '/' = 0 := by omega
      have hend' : AtEnd '/' (post ++ []) := by rwa [List.append_nil]
      exact hend'.eq_nil_of_append (List.count_eq_zero.mp hzero)
    obtain ⟨rfl, rfl⟩ := eq_nil_of_append_cons_eq_singleton hfills
    rw [hpost, List.append_nil]
    exact ⟨hstart, rfl⟩

theorem topicFilter_isOk (s : String) :
    (TopicFilter.new s).isOk = true ↔ IsTopicFilter s := by
  rw [TopicFilter.new, BoundedText.new_isOk, validateTopicFilter_isOk]
  constructor
  · intro h
    obtain ⟨hlength, hlevels⟩ := h
    obtain ⟨hnull, hplus, hhash⟩ := places_of_validLevel hlevels
    exact ⟨hlength, hnull, hplus, hhash⟩
  · intro h
    exact ⟨h.length, fun index level => validLevel_of_isTopicFilter h.noNull h.plus h.hash⟩

theorem validateTopicName_isOk (s : String) :
    (validateTopicName s).isOk = true ↔ '\x00' ∉ s.toList ∧ '+' ∉ s.toList ∧ '#' ∉ s.toList := by
  unfold validateTopicName
  split
  · rename_i h
    obtain ⟨c, hc, hbad⟩ := List.any_eq_true.mp h
    simp only [Bool.or_eq_true, beq_iff_eq] at hbad
    simp only [Except.isOk, Except.toBool, Bool.false_eq_true, false_iff]
    rintro ⟨hnull, hplus, hhash⟩
    rcases hbad with (rfl | rfl) | rfl
    · exact hnull hc
    · exact hplus hc
    · exact hhash hc
  · rename_i h
    rw [Bool.not_eq_true, List.any_eq_false] at h
    simp only [Except.isOk, Except.toBool, true_iff]
    refine ⟨?_, ?_, ?_⟩ <;> intro hmem <;> exact h _ hmem (by decide)

/-- Topic filters are accepted exactly when every wildcard stands where the
protocol allows it, topic names exactly when they are filters without wildcards. -/
theorem topics_follow_grammar (s : String) :
    ((TopicFilter.new s).isOk = true ↔ IsTopicFilter s) ∧
      ((TopicName.new s).isOk = true ↔
        (TopicFilter.new s).isOk = true ∧ '+' ∉ s.toList ∧ '#' ∉ s.toList) := by
  refine ⟨topicFilter_isOk s, ?_⟩
  rw [topicFilter_isOk, TopicName.new, BoundedText.new_isOk, validateTopicName_isOk]
  constructor
  · intro h
    obtain ⟨hlength, hnull, hplus, hhash⟩ := h
    refine ⟨⟨hlength, hnull, ?_, ?_⟩, hplus, hhash⟩
    · intro before behind htext
      exact absurd (by simp [htext]) hplus
    · intro before behind htext
      exact absurd (by simp [htext]) hhash
  · intro h
    obtain ⟨hfilter, hplus, hhash⟩ := h
    exact ⟨hfilter.length, hfilter.noNull, hplus, hhash⟩

end EmbeddedSdk.Mqtt
