import MultibusGateway.Library.Separators
import MultibusGateway.Web.Session

/-! The grammar of the cookie header. The scanner walks over the header with one cursor; what it
accepts are the headers of which a piece between semicolons names the session cookie and has the
token as its value, with blanks and tabs around both. -/

namespace Web
open ByteString

namespace WebSessionPolicy

/-- A text without the blanks and tabs around it. -/
def trim (s : Bytes) : Bytes := trimEnd (s.dropWhile isBlank)

/-- The first `=` of a piece stands between the name of the cookie and the token. -/
def Carries (token piece : Bytes) : Prop :=
  ∃ name value, piece = name ++ 0x3d :: value ∧ (0x3d : UInt8) ∉ name ∧ trim name = kName ∧
    trim value = token

def Granted (token header : Bytes) : Prop := ∃ piece ∈ header.splitOn 0x3b, Carries token piece

theorem equals_of_carries (token piece : Bytes) (carries : Carries token piece) :
    (0x3d : UInt8) ∈ piece := by
  obtain ⟨name, value, rfl, -⟩ := carries
  exact List.mem_append_right _ List.mem_cons_self

theorem carries_blank (token piece : Bytes) (c : UInt8) (blank : isBlank c = true) :
    Carries token (c :: piece) ↔ Carries token piece := by
  have trimmed (s : Bytes) : trim (c :: s) = trim s := by
    rw [trim, List.dropWhile_cons_of_pos blank, trim]
  have other : c ≠ 0x3d := by
    rintro rfl
    exact absurd blank (by decide)
  constructor
  · rintro ⟨name, value, same, first, named, valued⟩
    cases name with
    | nil => exact absurd (List.cons.inj same).1 other
    | cons d name =>
      obtain ⟨rfl, rest⟩ := List.cons.inj same
      rw [trimmed] at named
      exact ⟨name, value, rest, fun inside => first (List.mem_cons_of_mem _ inside), named, valued⟩
  · rintro ⟨name, value, rfl, first, named, valued⟩
    refine ⟨c :: name, value, rfl, ?_, (trimmed name).trans named, valued⟩
    rw [List.mem_cons, not_or]
    exact ⟨other.symm, first⟩

theorem isSemicolon_iff (c : UInt8) : isSemicolon c = true ↔ c = 0x3b := beq_iff_eq

theorem isEquals_iff (c : UInt8) : isEquals c = true ↔ c = 0x3d := beq_iff_eq

theorem splitOn_semicolon (rest : Bytes) :
    (0x3b :: rest).splitOn (0x3b : UInt8) = [] :: rest.splitOn 0x3b := by
  rw [List.splitOn_eq_splitOnP, List.splitOnP_cons_eq_if_modifyHead, if_pos (by decide)]
  rfl

theorem granted_semicolon (token rest : Bytes) :
    Granted token (0x3b :: rest) ↔ Granted token rest := by
  rw [Granted, splitOn_semicolon, Granted]
  constructor
  · rintro ⟨piece, member, carries⟩
    rcases List.mem_cons.mp member with rfl | inside
    · exact absurd (equals_of_carries token [] carries) List.not_mem_nil
    · exact ⟨piece, inside, carries⟩
  · rintro ⟨piece, member, carries⟩
    exact ⟨piece, List.mem_cons_of_mem _ member, carries⟩

theorem granted_nil (token : Bytes) : ¬ Granted token [] := by
  rintro ⟨piece, member, carries⟩
  have inside := equals_of_carries token piece carries
  rw [List.splitOn_nil, List.mem_singleton] at member
  rw [member] at inside
  exact absurd inside List.not_mem_nil

theorem granted_blank (token rest : Bytes) (c : UInt8) (blank : isBlank c = true) :
    Granted token (c :: rest) ↔ Granted token rest := by
  have other : ¬ (c == 0x3b) = true := by
    rw [beq_iff_eq]
    rintro rfl
    exact absurd blank (by decide)
  obtain ⟨first, others, pieces⟩ := List.exists_cons_of_ne_nil
    (List.splitOnP_ne_nil (· == (0x3b : UInt8)) rest)
  rw [Granted, Granted, List.splitOn_eq_splitOnP, List.splitOn_eq_splitOnP,
    List.splitOnP_cons_eq_if_modifyHead, if_neg other, pieces, List.modifyHead_cons]
  simp only [List.mem_cons, exists_eq_or_imp, carries_blank token first c blank]

theorem granted_dropWhile (token cursor : Bytes) :
    Granted token (cursor.dropWhile isSeparator) ↔ Granted token cursor := by
  induction cursor with
  | nil => exact Iff.rfl
  | cons c cursor ih =>
    rw [List.dropWhile_cons]
    split
    · rename_i separator
      rw [ih]
      rw [isSeparator, Bool.or_eq_true, isSemicolon_iff] at separator
      rcases separator with rfl | blank
      · exact (granted_semicolon token cursor).symm
      · exact (granted_blank token cursor c blank).symm
    · exact Iff.rfl

theorem granted_first (token text : Bytes) : Granted token text ↔
    Carries token (text.takeWhile fun c => !isSemicolon c) ∨
      Granted token (text.dropWhile fun c => !isSemicolon c) := by
  have inner : ∀ c ∈ text.takeWhile fun c => !isSemicolon c, (c == 0x3b) = false := by
    intro c member
    have other := List.mem_takeWhile_imp member
    simpa only [isSemicolon, Bool.not_eq_true'] using other
  have parts := List.takeWhile_append_dropWhile (p := fun c => !isSemicolon c) (l := text)
  generalize text.takeWhile (fun c => !isSemicolon c) = piece at inner parts ⊢
  cases left : text.dropWhile fun c => !isSemicolon c with
  | nil =>
    rw [left, List.append_nil] at parts
    have none := granted_nil token
    rw [← parts, Granted, List.splitOn_eq_splitOnP, List.splitOnP_eq_singleton inner]
    simp only [List.mem_singleton, exists_eq_left, none, or_false]
  | cons c rest =>
    have semicolon : c = 0x3b := by
      have stops := dropWhile_head _ _ _ _ left
      simpa [isSemicolon] using stops
    rw [left, semicolon] at parts
    rw [semicolon, granted_semicolon, ← parts, Granted, List.splitOn_eq_splitOnP,
      List.splitOnP_append_cons_of_forall_mem inner 0x3b (by decide)]
    simp only [List.mem_cons, exists_eq_or_imp]
    exact Iff.rfl

/-! The scanner. -/

theorem constantTimeEquals_eq (a b : Bytes) (length : a.length = b.length)
    (equal : constantTimeEquals a b = true) : a = b := by
  rw [← Security.constantTimeEquals_iff, Security.constantTimeEquals,
    if_neg (bne_iff_ne.not.mpr (not_not.mpr length))]
  exact equal

theorem blank_not_semicolon (c : UInt8) (blank : isBlank c = true) : (!isSemicolon c) = true := by
  rw [Bool.not_eq_true', isSemicolon, beq_eq_false_iff_ne]
  rintro rfl
  exact absurd blank (by decide)

theorem isNameChar_iff (c : UInt8) : isNameChar c = true ↔ c ≠ 0x3d ∧ c ≠ 0x3b := by
  rw [isNameChar, Bool.and_eq_true, Bool.not_eq_true', Bool.not_eq_true', isEquals, isSemicolon,
    beq_eq_false_iff_ne, beq_eq_false_iff_ne]

theorem sameToken_iff (value expected : Bytes) :
    (value.length == expected.length && constantTimeEquals value expected) = true ↔
      value = expected := by
  rw [Bool.and_eq_true, beq_iff_eq]
  constructor
  · rintro ⟨length, equal⟩
    exact constantTimeEquals_eq value expected length equal
  · rintro rfl
    refine ⟨rfl, ?_⟩
    have equal := (Security.constantTimeEquals_iff value value).mpr rfl
    rwa [Security.constantTimeEquals, if_neg (by simp)] at equal

theorem carries_pair (token name value : Bytes) (named : (0x3d : UInt8) ∉ name) :
    Carries token (name ++ 0x3d :: value) ↔ trim name = kName ∧ trim value = token := by
  constructor
  · rintro ⟨name', value', same, first, names, values⟩
    obtain ⟨rfl, rfl⟩ := Separators.first_separator _ _ _ _ _ named first same
    exact ⟨names, values⟩
  · rintro ⟨names, values⟩
    exact ⟨name, value, rfl, named, names, values⟩

section
variable (token first : Bytes) (named : ∀ c ∈ first, isNameChar c = true)

include named

theorem name_inside : (∀ c ∈ first, (!isSemicolon c) = true) ∧ (0x3d : UInt8) ∉ first := by
  constructor
  · intro c member
    rw [Bool.not_eq_true', isSemicolon, beq_eq_false_iff_ne]
    exact ((isNameChar_iff c).mp (named c member)).2
  · intro equals
    exact ((isNameChar_iff _).mp (named _ equals)).1 rfl

theorem granted_valueless (rest : Bytes) :
    Granted token (first ++ 0x3b :: rest) ↔ Granted token rest := by
  obtain ⟨inner, equals⟩ := name_inside first named
  have ends : (0x3b :: rest).takeWhile (fun c => !isSemicolon c) = [] :=
    List.takeWhile_cons_of_neg (by decide)
  have left : (0x3b :: rest).dropWhile (fun c => !isSemicolon c) = 0x3b :: rest :=
    List.dropWhile_cons_of_neg (by decide)
  rw [granted_first, List.takeWhile_append_of_pos inner, List.dropWhile_append_of_pos inner,
    ends, left, granted_semicolon, List.append_nil]
  constructor
  · rintro (carries | later)
    · exact absurd (equals_of_carries token first carries) equals
    · exact later
  · exact Or.inr

theorem granted_last : ¬ Granted token first := by
  obtain ⟨inner, equals⟩ := name_inside first named
  rw [granted_first, List.takeWhile_eq_self_iff.mpr inner, List.dropWhile_eq_nil_iff.mpr inner]
  rintro (carries | none)
  · exact equals (equals_of_carries token first carries)
  · exact granted_nil token none

theorem granted_pair (rest : Bytes) : Granted token (first ++ 0x3d :: rest) ↔
    (trim first = kName ∧
      trimEnd ((rest.dropWhile isBlank).takeWhile fun c => !isSemicolon c) = token) ∨
    Granted token ((rest.dropWhile isBlank).dropWhile fun c => !isSemicolon c) := by
  obtain ⟨inner, equals⟩ := name_inside first named
  have goes : (0x3d :: rest).takeWhile (fun c => !isSemicolon c) =
      0x3d :: rest.takeWhile (fun c => !isSemicolon c) := List.takeWhile_cons_of_pos (by decide)
  have left : (0x3d :: rest).dropWhile (fun c => !isSemicolon c) =
      rest.dropWhile (fun c => !isSemicolon c) := List.dropWhile_cons_of_pos (by decide)
  have value : trim (rest.takeWhile fun c => !isSemicolon c) =
      trimEnd ((rest.dropWhile isBlank).takeWhile fun c => !isSemicolon c) := by
    rw [trim, Separators.dropWhile_takeWhile isBlank _ blank_not_semicolon]
  rw [granted_first, List.takeWhile_append_of_pos inner, List.dropWhile_append_of_pos inner,
    goes, left, carries_pair token first _ equals, value,
    Separators.dropWhile_dropWhile isBlank _ blank_not_semicolon]

end

theorem trim_name (c : UInt8) (text : Bytes) (starts : isSeparator c = false) :
    trim ((c :: text).takeWhile isNameChar) = trimEnd ((c :: text).takeWhile isNameChar) := by
  rw [isSeparator, Bool.or_eq_false_iff] at starts
  rw [trim, List.takeWhile_cons]
  split
  · rw [List.dropWhile_cons_of_neg (Bool.eq_false_iff.mp starts.2)]
  · rfl

theorem granted_at_pair (token cursor others rest : Bytes) (first separator : UInt8)
    (pair : cursor.dropWhile isSeparator = first :: others)
    (tail : (first :: others).dropWhile isNameChar = separator :: rest)
    (valued : ¬ (!isEquals separator) = true) : Granted token cursor ↔
      (trimEnd ((first :: others).takeWhile isNameChar) = kName ∧
        trimEnd ((rest.dropWhile isBlank).takeWhile fun c => !isSemicolon c) = token) ∨
      Granted token ((rest.dropWhile isBlank).dropWhile fun c => !isSemicolon c) := by
  have named := List.takeWhile_append_dropWhile (p := isNameChar) (l := first :: others)
  have starts := dropWhile_head isSeparator _ _ _ pair
  have equals : separator = 0x3d := by
    rw [Bool.not_eq_true', Bool.not_eq_false] at valued
    exact (isEquals_iff separator).mp valued
  rw [tail, equals] at named
  rw [← granted_dropWhile token cursor, pair, ← trim_name _ _ starts]
  nth_rewrite 1 [← named]
  exact granted_pair token _ (fun c member => List.mem_takeWhile_imp member) rest

/-- The scanner accepts from a cursor on exactly the headers that grant the token. -/
theorem hasCookieFrom_iff (token cursor : Bytes) :
    hasCookieFrom token cursor = true ↔ Granted token cursor := by
  fun_induction hasCookieFrom token cursor with
  | case1 cursor none =>
    rw [← granted_dropWhile, none]
    exact iff_of_false Bool.false_ne_true (granted_nil token)
  | case2 cursor first others pair nameless =>
    have named := List.takeWhile_append_dropWhile (p := isNameChar) (l := first :: others)
    rw [nameless, List.append_nil] at named
    rw [← granted_dropWhile, pair, ← named]
    exact iff_of_false Bool.false_ne_true
      (granted_last token _ fun c member => List.mem_takeWhile_imp member)
  | case3 cursor first others pair separator rest tail valueless ih =>
    have named := List.takeWhile_append_dropWhile (p := isNameChar) (l := first :: others)
    have stops := dropWhile_head isNameChar _ _ _ tail
    have semicolon : separator = 0x3b := by
      by_contra other
      rw [Bool.not_eq_true', isEquals, beq_eq_false_iff_ne] at valueless
      exact absurd ((isNameChar_iff separator).mpr ⟨valueless, other⟩)
        (Bool.eq_false_iff.mp stops)
    rw [tail, semicolon] at named
    rw [ih, ← granted_dropWhile token cursor, pair, ← named, semicolon,
      granted_valueless token _ fun c member => List.mem_takeWhile_imp member,
      List.dropWhile_cons_of_neg (by decide), granted_semicolon]
  | case4 cursor first others pair name separator rest tail valued text value same =>
    rw [Bool.and_assoc, Bool.and_eq_true, beq_iff_eq, sameToken_iff] at same
    rw [granted_at_pair token cursor others rest first separator pair tail valued]
    exact iff_of_true rfl (Or.inl same)
  | case5 cursor first others pair name separator rest tail valued text value other ih =>
    rw [Bool.and_assoc, Bool.and_eq_true, beq_iff_eq, sameToken_iff] at other
    rw [ih, granted_at_pair token cursor others rest first separator pair tail valued]
    exact (or_iff_right other).symm

theorem granted_of_hasSessionCookie (cookieHeader expectedToken : Bytes)
    (found : hasSessionCookie cookieHeader expectedToken = true) :
    Granted (cStr expectedToken) (cStr cookieHeader) := by
  unfold hasSessionCookie at found
  split at found
  · cases found
  · exact (hasCookieFrom_iff _ _).mp found

/-- The scanner comes to an end on every header, and for a token that is not empty it accepts those
of which a piece carries the token, and no others. -/
theorem hasSessionCookie_iff (cookieHeader expectedToken : Bytes)
    (some_ : cStr expectedToken ≠ []) :
    hasSessionCookie cookieHeader expectedToken = true ↔
      ∃ piece ∈ (cStr cookieHeader).splitOn 0x3b, ∃ name value, piece = name ++ 0x3d :: value ∧
        (0x3d : UInt8) ∉ name ∧ trim name = ascii "MBSESSION" ∧
        trim value = cStr expectedToken := by
  have given : ¬ (cStr expectedToken).isEmpty = true := fun none =>
    some_ (List.isEmpty_iff.mp none)
  rw [hasSessionCookie, if_neg given]
  exact hasCookieFrom_iff (cStr expectedToken) (cStr cookieHeader)

theorem hasSessionCookie_spaced :
    hasSessionCookie (ascii "theme=dark;\tMBSESSION = 0123456789abcdef ; x=1")
        (ascii "0123456789abcdef") = true ↔
      ∃ piece ∈ (cStr (ascii "theme=dark;\tMBSESSION = 0123456789abcdef ; x=1")).splitOn 0x3b,
        ∃ name value, piece = name ++ 0x3d :: value ∧ (0x3d : UInt8) ∉ name ∧
          trim name = ascii "MBSESSION" ∧ trim value = cStr (ascii "0123456789abcdef") :=
  hasSessionCookie_iff _ _ (by decide +kernel)

end WebSessionPolicy

end Web
