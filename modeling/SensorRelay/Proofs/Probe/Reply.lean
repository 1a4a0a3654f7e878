import Mathlib.Data.List.TakeWhile
import SensorRelay.Proofs.Probe.ReplyPattern

/-! # Replies line by line

A line shows a reply if a field with its number stands in it. Where no line breaks off behind the sign of
a field, so that no number can be taken from the next line, the count of replies is the number of lines
that show one.
-/
namespace SensorRelay.Probe
open Text

/-- The name of a field and its sign: `ttl` in either case, then `=` or `:`. -/
def IsName (name : List Char) : Prop :=
  ∃ t u l sign, name = [t, u, l, sign] ∧ t.toLower = 't' ∧ u.toLower = 't' ∧ l.toLower = 'l' ∧
    (sign = '=' ∨ sign = ':')

/-- No word goes on behind this text. -/
def EndsOutsideWord (before : List Char) : Prop := before.getLast?.any isWord = false

/-- A name with blanks and a digit behind it. -/
def StartsWithField (text : List Char) : Prop :=
  ∃ name blanks digit after, text = name ++ (blanks ++ digit :: after) ∧ IsName name ∧
    (∀ c ∈ blanks, isBlank c = true) ∧ isDigit digit = true

/-- A name with nothing but blanks behind it. -/
def IsOpenField (text : List Char) : Prop :=
  ∃ name blanks, text = name ++ blanks ∧ IsName name ∧ ∀ c ∈ blanks, isBlank c = true

/-- A line with a field at the start of a word. -/
def ShowsReply (line : List Char) : Prop :=
  ∃ before field, line = before ++ field ∧ EndsOutsideWord before ∧ StartsWithField field

/-- A line that ends with the name of a field at the start of a word and blanks. -/
def BreaksOff (line : List Char) : Prop :=
  ∃ before field, line = before ++ field ∧ EndsOutsideWord before ∧ IsOpenField field

variable {text line name front number rest : List Char}

/-! ## One field -/

theorem IsName.length_eq (h : IsName name) : name.length = 4 := by
  obtain ⟨t,u,l,sign,rfl,-⟩ := h
  rfl

theorem IsName.newline_notMem (h : IsName name) : '\n' ∉ name := by
  obtain ⟨t,u,l,sign,rfl,ht,hu,hl,hsign⟩ := h
  intro hmem
  simp only [List.mem_cons, List.not_mem_nil, or_false] at hmem
  rcases hmem with rfl | rfl | rfl | rfl
  · revert ht; decide
  · revert hu; decide
  · revert hl; decide
  · revert hsign; decide

theorem fieldNumber?_of_isName (h : IsName name) (rest : List Char) :
    fieldNumber? (name ++ rest) = digits? (rest.dropWhile isBlank) := by
  obtain ⟨t,u,l,sign,rfl,ht,hu,hl,hsign⟩ := h
  exact if_pos ⟨ht,hu,hl,hsign⟩

/-- Without a name there is no field. -/
theorem fieldNumber?_eq_none (h : ¬ IsName (text.take 4)) : fieldNumber? text = none := by
  match text with
  | [] => rfl
  | [_] => rfl
  | [_, _] => rfl
  | [_, _, _] => rfl
  | t :: u :: l :: sign :: rest => exact if_neg fun hname => h ⟨t,u,l,sign,rfl,hname⟩

theorem isName_take_or (text : List Char) :
    (∃ name rest, text = name ++ rest ∧ IsName name) ∨ ¬ IsName (text.take 4) := by
  by_cases h : IsName (text.take 4)
  · exact .inl ⟨_,_,(List.take_append_drop 4 text).symm,h⟩
  · exact .inr h

theorem digits?_isSome_iff :
    (digits? text).isSome = true ↔ ∃ digit after, text = digit :: after ∧ isDigit digit = true := by
  cases text with
  | nil => simp [digits?]
  | cons d rest =>
    cases hd : isDigit d with
    | false => simp [digits?, hd]
    | true => simp [digits?, hd]

theorem startsWithField_iff : StartsWithField text ↔ (fieldNumber? text).isSome = true := by
  constructor
  · rintro ⟨name,blanks,digit,after,rfl,hname,hblanks,hdigit⟩
    have hstop : isBlank digit = false := by
      cases hblank : isBlank digit with
      | false => rfl
      | true => exact absurd hdigit (by simp [isDigit_eq_false_of_isBlank hblank])
    rw [fieldNumber?_of_isName hname, List.dropWhile_append_of_pos hblanks,
      List.dropWhile_cons_of_neg (by simp [hstop])]
    exact digits?_isSome_iff.mpr ⟨digit,after,rfl,hdigit⟩
  · intro h
    rcases isName_take_or text with ⟨name,rest,rfl,hname⟩ | hname
    · rw [fieldNumber?_of_isName hname] at h
      obtain ⟨digit,after,hrest,hdigit⟩ := digits?_isSome_iff.mp h
      refine ⟨name,rest.takeWhile isBlank,digit,after,?_,hname,?_,hdigit⟩
      · rw [← hrest, List.takeWhile_append_dropWhile]
      · exact fun c hc => List.all_eq_true.mp List.all_takeWhile c hc
    · simp [fieldNumber?_eq_none hname] at h

theorem digits?_suffix (h : digits? text = some number) : number <:+ text := by
  cases text with
  | nil => cases h
  | cons d rest =>
    rw [digits?] at h
    split at h
    · exact (Option.some.inj h) ▸ List.suffix_rfl
    · cases h

theorem fieldNumber?_suffix (h : fieldNumber? text = some number) : number <:+ text := by
  rcases isName_take_or text with ⟨name,rest,rfl,hname⟩ | hname
  · rw [fieldNumber?_of_isName hname] at h
    exact ((digits?_suffix h).trans (List.dropWhile_suffix _)).trans (List.suffix_append _ _)
  · cases (fieldNumber?_eq_none hname).symm.trans h

theorem digits?_append {text : List Char} (h : text ≠ []) (tail : List Char) :
    digits? (text ++ tail) = (digits? text).map (· ++ tail) := by
  cases text with
  | nil => exact absurd rfl h
  | cons d rest =>
    cases hd : isDigit d with
    | false => simp [digits?, hd]
    | true => simp [digits?, hd]

/-- A name does not go on over the end of a line. -/
theorem not_isName_take_append_newline (h : ¬ IsName (line.take 4)) (rest : List Char) :
    ¬ IsName ((line ++ '\n' :: rest).take 4) := by
  intro hname
  rw [List.take_append] at hname
  rcases Nat.lt_or_ge line.length 4 with hlt | hge
  · obtain ⟨k,hk⟩ := Nat.exists_eq_add_one_of_ne_zero (Nat.sub_ne_zero_of_lt hlt)
    rw [hk, List.take_succ_cons] at hname
    exact hname.newline_notMem (List.mem_append_right _ List.mem_cons_self)
  · rw [Nat.sub_eq_zero_of_le hge, List.take_zero, List.append_nil] at hname
    exact h hname

/-- A field that does not break off has its number in its line. -/
theorem fieldNumber?_append_newline (h : ¬ IsOpenField line) (rest : List Char) :
    fieldNumber? (line ++ '\n' :: rest) = (fieldNumber? line).map (· ++ '\n' :: rest) := by
  rcases isName_take_or line with ⟨name,later,rfl,hname⟩ | hname
  · have hstop : later.dropWhile isBlank ≠ [] := by
      intro hblank
      exact h ⟨name,later,rfl,hname,List.dropWhile_eq_nil_iff.mp hblank⟩
    rw [List.append_assoc, fieldNumber?_of_isName hname, fieldNumber?_of_isName hname,
      List.dropWhile_append, if_neg (by simpa using hstop), digits?_append hstop]
  · rw [fieldNumber?_eq_none hname, fieldNumber?_eq_none (not_isName_take_append_newline hname rest)]
    rfl

/-! ## One line -/

theorem endsOutsideWord_concat (front : List Char) (c : Char) :
    (front ++ [c]).getLast?.any isWord = isWord c := by
  rw [List.getLast?_concat]
  rfl

/-- The reader of a line goes on behind its first character. -/
theorem lastField?_cons (front : List Char) {c : Char} (hc : c ≠ '\n') (rest : List Char) :
    lastField? (front.getLast?.any isWord) (c :: rest) =
      (lastField? ((front ++ [c]).getLast?.any isWord) rest).or
        (if front.getLast?.any isWord then none else fieldNumber? (c :: rest)) := by
  rw [lastField?, if_neg hc, endsOutsideWord_concat]
  cases lastField? (isWord c) rest with
  | none => rfl
  | some number => rfl

theorem lastField?_newline (inWord : Bool) (rest : List Char) :
    lastField? inWord ('\n' :: rest) = none := if_pos rfl

theorem lastField?_suffix {inWord : Bool} (h : lastField? inWord text = some number) :
    number <:+ text := by
  induction text generalizing inWord with
  | nil => cases h
  | cons c rest ih =>
    rw [lastField?] at h
    split at h
    · cases h
    · split at h
      · rename_i hlater
        exact (ih (hlater.trans h)).trans (List.suffix_cons c rest)
      · split at h
        · cases h
        · exact fieldNumber?_suffix h

/-- A field is found in a line if one stands in it. -/
theorem lastField?_isSome_iff (hline : '\n' ∉ line) (front : List Char) :
    (lastField? (front.getLast?.any isWord) line).isSome = true ↔
      ∃ before field, line = before ++ field ∧ EndsOutsideWord (front ++ before) ∧
        StartsWithField field := by
  induction line generalizing front with
  | nil =>
    simp only [lastField?, Option.isSome_none, Bool.false_eq_true, false_iff]
    rintro ⟨before,field,hsplit,-,hfield⟩
    obtain ⟨rfl,rfl⟩ := List.append_eq_nil_iff.mp hsplit.symm
    cases startsWithField_iff.mp hfield
  | cons c line ih =>
    rw [List.mem_cons, not_or] at hline
    obtain ⟨hc,hline⟩ := hline
    rw [lastField?_cons front (Ne.symm hc), Option.isSome_or, Bool.or_eq_true, ih hline]
    constructor
    · rintro (⟨before,field,rfl,hedge,hfield⟩ | hfield)
      · exact ⟨c :: before,field,rfl,by simpa using hedge,hfield⟩
      · cases hedge : front.getLast?.any isWord with
        | true => simp [hedge] at hfield
        | false =>
          rw [hedge] at hfield
          exact ⟨[],c :: line,rfl,by simpa [EndsOutsideWord] using hedge,startsWithField_iff.mpr hfield⟩
    · rintro ⟨before,field,hsplit,hedge,hfield⟩
      cases before with
      | nil =>
        obtain rfl : c :: line = field := hsplit
        have hout : front.getLast?.any isWord = false := by rwa [List.append_nil] at hedge
        rw [hout]
        exact .inr (startsWithField_iff.mp hfield)
      | cons d before =>
        obtain ⟨rfl,rfl⟩ := List.cons.inj hsplit
        exact .inl ⟨before,field,rfl,by simpa using hedge,hfield⟩

/-- What stands behind the end of a line does not change its last field. -/
theorem lastField?_append_newline (hline : '\n' ∉ line) (front rest : List Char)
    (h : ∀ before field, line = before ++ field → EndsOutsideWord (front ++ before) →
      ¬ IsOpenField field) :
    lastField? (front.getLast?.any isWord) (line ++ '\n' :: rest) =
      (lastField? (front.getLast?.any isWord) line).map (· ++ '\n' :: rest) := by
  induction line generalizing front with
  | nil => exact lastField?_newline _ _
  | cons c line ih =>
    rw [List.mem_cons, not_or] at hline
    obtain ⟨hc,hline⟩ := hline
    have hlater := ih hline (front ++ [c]) fun before field hsplit hedge =>
      h (c :: before) field (by rw [hsplit, List.cons_append]) (by simpa using hedge)
    have hhere : (if front.getLast?.any isWord then none
          else fieldNumber? (c :: line ++ '\n' :: rest)) =
        (if front.getLast?.any isWord then none else fieldNumber? (c :: line)).map
          (· ++ '\n' :: rest) := by
      cases hedge : front.getLast?.any isWord with
      | true => rfl
      | false =>
        have hopen : ¬ IsOpenField (c :: line) :=
          h [] (c :: line) rfl (by rwa [List.append_nil])
        exact fieldNumber?_append_newline hopen rest
    rw [List.cons_append] at hhere ⊢
    rw [lastField?_cons front (Ne.symm hc), lastField?_cons front (Ne.symm hc), hlater, hhere,
      Option.map_or]

theorem showsReply_iff (hline : '\n' ∉ line) :
    ShowsReply line ↔ (lastField? false line).isSome = true :=
  (lastField?_isSome_iff hline []).symm

theorem isOpenField_iff :
    IsOpenField text ↔ IsName (text.take 4) ∧ (text.drop 4).all isBlank = true := by
  rw [List.all_eq_true]
  constructor
  · rintro ⟨name,blanks,rfl,hname,hblanks⟩
    rw [← hname.length_eq, List.take_left, List.drop_left]
    exact ⟨hname,hblanks⟩
  · rintro ⟨hname,hblanks⟩
    exact ⟨_,_,(List.take_append_drop 4 text).symm,hname,hblanks⟩

theorem exists_append_iff {P Q : List Char → Prop} :
    (∃ before field, line = before ++ field ∧ P before ∧ Q field) ↔
      ∃ k < line.length + 1, P (line.take k) ∧ Q (line.drop k) := by
  constructor
  · rintro ⟨before,field,rfl,hbefore,hfield⟩
    refine ⟨before.length,?_,?_,?_⟩
    · rw [List.length_append]
      omega
    · rwa [List.take_left]
    · rwa [List.drop_left]
  · rintro ⟨k,-,hbefore,hfield⟩
    exact ⟨_,_,(List.take_append_drop k line).symm,hbefore,hfield⟩

instance : (name : List Char) → Decidable (IsName name)
  | [t, u, l, sign] =>
    decidable_of_iff (t.toLower = 't' ∧ u.toLower = 't' ∧ l.toLower = 'l' ∧ (sign = '=' ∨ sign = ':'))
      ⟨fun h => ⟨t,u,l,sign,rfl,h⟩,fun ⟨_,_,_,_,heq,h⟩ => by cases heq; exact h⟩
  | [] | [_] | [_, _] | [_, _, _] | _ :: _ :: _ :: _ :: _ :: _ =>
    isFalse fun h => absurd h.length_eq (by simp)

instance (before : List Char) : Decidable (EndsOutsideWord before) :=
  inferInstanceAs (Decidable (before.getLast?.any isWord = false))

instance (text : List Char) : Decidable (StartsWithField text) :=
  decidable_of_iff _ startsWithField_iff.symm

instance (text : List Char) : Decidable (IsOpenField text) := decidable_of_iff _ isOpenField_iff.symm

instance (line : List Char) : Decidable (ShowsReply line) := decidable_of_iff _ exists_append_iff.symm

instance (line : List Char) : Decidable (BreaksOff line) := decidable_of_iff _ exists_append_iff.symm

/-! ## Line by line -/

theorem nextLine?_of_notMem (h : '\n' ∉ text) : nextLine? text = none := by
  induction text with
  | nil => rfl
  | cons c text ih =>
    rw [List.mem_cons, not_or] at h
    rw [nextLine?_cons_of_ne (Ne.symm h.1), ih h.2]

theorem nextLine?_append (h : '\n' ∉ text) (rest : List Char) :
    nextLine? (text ++ '\n' :: rest) = some rest := by
  induction text with
  | nil => rfl
  | cons c text ih =>
    rw [List.mem_cons, not_or] at h
    rw [List.cons_append, nextLine?_cons_of_ne (Ne.symm h.1), ih h.2]

/-- One step of the count: a line with a field counts, and the count goes on at the line behind its
number. -/
theorem countReplies_eq (text : List Char) :
    countReplies text =
      match lastField? false text with
      | some number => (nextLine? number).elim 1 fun rest => countReplies rest + 1
      | none => (nextLine? text).elim 0 countReplies := by
  rw [countReplies]
  split
  · rename_i number hfield
    simp only [hfield]
    split
    · rename_i rest hnext
      rw [hnext, Option.elim_some]
    · rename_i hnext
      rw [hnext, Option.elim_none]
  · rename_i hfield
    simp only [hfield]
    split
    · rename_i rest hnext
      rw [hnext, Option.elim_some]
    · rename_i hnext
      rw [hnext, Option.elim_none]

/-- The last line counts once if it shows a reply. -/
theorem countReplies_of_notMem (h : '\n' ∉ line) :
    countReplies line = if ShowsReply line then 1 else 0 := by
  rw [countReplies_eq]
  simp only [showsReply_iff h]
  cases hfield : lastField? false line with
  | none => simp [nextLine?_of_notMem h]
  | some number =>
    have hnumber : '\n' ∉ number := fun hmem => h ((lastField?_suffix hfield).subset hmem)
    simp [nextLine?_of_notMem hnumber]

/-- A line counts once if it shows a reply, and what follows it counts by itself. -/
theorem countReplies_append (hline : '\n' ∉ line) (h : ¬ BreaksOff line) (rest : List Char) :
    countReplies (line ++ '\n' :: rest) = (if ShowsReply line then 1 else 0) + countReplies rest := by
  have hfield : lastField? false (line ++ '\n' :: rest) =
      (lastField? false line).map (· ++ '\n' :: rest) :=
    lastField?_append_newline hline [] rest fun before field hsplit hedge hopen =>
      h ⟨before,field,hsplit,hedge,hopen⟩
  rw [countReplies_eq, hfield]
  simp only [showsReply_iff hline]
  cases hlast : lastField? false line with
  | none => simp [nextLine?_append hline]
  | some number =>
    have hnumber : '\n' ∉ number := fun hmem => hline ((lastField?_suffix hlast).subset hmem)
    simp [nextLine?_append hnumber, Nat.add_comm]

/-- The count of replies is the number of matches of the reply pattern, and if no line breaks off behind
the sign of a field it is the number of lines that show a reply. -/
theorem countReplies_eq_countP_lines {text : List Char}
    (h : ∀ line ∈ text.splitOn '\n', ¬ BreaksOff line) :
    countReplies text = replyPattern.count text ∧
      countReplies text = (text.splitOn '\n').countP (ShowsReply ·) := by
  refine ⟨(count_replyPattern text).symm,?_⟩
  induction hlength : text.length using Nat.strongRecOn generalizing text with
  | _ n ih =>
    by_cases hmem : '\n' ∈ text
    · obtain ⟨line,rest,rfl,hline⟩ := List.eq_append_cons_of_mem hmem
      rw [List.splitOn_append_cons_self_of_not_mem hline] at h ⊢
      obtain ⟨hwhole,hrest⟩ := List.forall_mem_cons.mp h
      have hshorter : rest.length < n := by
        rw [← hlength, List.length_append, List.length_cons]
        omega
      rw [countReplies_append hline hwhole, ih rest.length hshorter hrest rfl, List.countP_cons,
        Nat.add_comm]
      simp only [decide_eq_true_eq]
    · rw [List.splitOn_eq_singleton hmem, countReplies_of_notMem hmem, List.countP_singleton]
      simp only [decide_eq_true_eq]

/-- Two fields in one line, a carriage return, an empty line, a field inside a word, a digit of another
script and a field without a number. -/
theorem countReplies_eq_countP_lines_five :
    let text := "a ttl=1 TTL: 2\r\n\nxttl=3\nTtl:\u00a0\u0664\nttl= x".toList
    (∀ line ∈ text.splitOn '\n', ¬ BreaksOff line) ∧
      replyPattern.count text = 2 ∧ countReplies text = 2 := by
  intro text
  have hwhole : ∀ line ∈ text.splitOn '\n', ¬ BreaksOff line := by decide +kernel
  have hlines : (text.splitOn '\n').countP (ShowsReply ·) = 2 := by decide +kernel
  obtain ⟨hpattern,hcount⟩ := countReplies_eq_countP_lines hwhole
  exact ⟨hwhole,hpattern.symm.trans (hcount.trans hlines),hcount.trans hlines⟩

/-- A line that breaks off takes its number from the next one. -/
example : countReplies "ttl=\n5".toList = 1 ∧
    ("ttl=\n5".toList.splitOn '\n').countP (ShowsReply ·) = 0 := by decide +kernel

end SensorRelay.Probe
