import MultibusGateway.Security.SecurityStore

/-! The session of the administrator: the cookie and the token that a request has to bring, and
the times after which the session ends. -/

namespace Web
open ByteString Security

namespace WebSessionPolicy

def kIdleTimeoutMs : UInt32 := 30 * 60 * 1000

def kMaxLifetimeMs : UInt32 := 12 * 60 * 60 * 1000

def expired (createdAt lastActivityAt now : UInt32) : Bool :=
  now - createdAt > kMaxLifetimeMs || now - lastActivityAt > kIdleTimeoutMs

def constantTimeEquals (a b : Bytes) : Bool :=
  (List.zipWith (· ^^^ ·) a b).foldl (· ||| ·) 0 == 0

def kName : Bytes := ascii "MBSESSION"

def isBlank (c : UInt8) : Bool := c == 0x20 || c == 0x09

def isSemicolon (c : UInt8) : Bool := c == 0x3b

def isEquals (c : UInt8) : Bool := c == 0x3d

def trimEnd (s : Bytes) : Bytes := (s.reverse.dropWhile isBlank).reverse

theorem dropWhile_length_le {α : Type} (p : α → Bool) (xs : List α) :
    (xs.dropWhile p).length ≤ xs.length :=
  (List.dropWhile_suffix p).length_le

theorem dropWhile_head {α : Type} (p : α → Bool) (xs rest : List α) (x : α)
    (left : xs.dropWhile p = x :: rest) : p x = false := by
  induction xs with
  | nil => cases left
  | cons y ys ih =>
    rw [List.dropWhile_cons] at left
    split at left
    · exact ih left
    · rename_i stays
      rw [← (List.cons.inj left).1]
      exact Bool.eq_false_iff.mpr stays

def isSeparator (c : UInt8) : Bool := isSemicolon c || isBlank c

def isNameChar (c : UInt8) : Bool := !isEquals c && !isSemicolon c

/-- The pairs of a header from the cursor on: a name up to `=` or `;`, and after a `=` a value
up to the next `;`. -/
def hasCookieFrom (expected : Bytes) (cursor : Bytes) : Bool :=
  match _start : cursor.dropWhile isSeparator with
  | [] => false
  | first :: others =>
    let name := trimEnd ((first :: others).takeWhile isNameChar)
    match _tail : (first :: others).dropWhile isNameChar with
    | [] => false
    | separator :: rest =>
      if !isEquals separator then
        hasCookieFrom expected ((separator :: rest).dropWhile fun c => !isSemicolon c)
      else
        let text := rest.dropWhile isBlank
        let value := trimEnd (text.takeWhile fun c => !isSemicolon c)
        if name == kName && value.length == expected.length &&
            constantTimeEquals value expected then true
        else hasCookieFrom expected (text.dropWhile fun c => !isSemicolon c)
termination_by cursor.length
decreasing_by
  all_goals
    have pair := dropWhile_length_le isSeparator cursor
    have left := dropWhile_length_le isNameChar (first :: others)
    rw [_start] at pair
    rw [_tail] at left
    simp only [List.length_cons] at pair left
  · -- the separator is a `;`, which the pair does not start with
    rename_i valueless
    have shorter := dropWhile_length_le (fun c => !isSemicolon c) (separator :: rest)
    rw [List.dropWhile_cons] at _tail
    split at _tail
    · have later := dropWhile_length_le isNameChar others
      rw [_tail] at later
      simp only [List.length_cons] at later shorter
      omega
    · rename_i unnamed
      have opened := dropWhile_head isSeparator cursor others first _start
      rw [(List.cons.inj _tail).1] at unnamed opened
      simp only [isSeparator, isNameChar, Bool.or_eq_false_iff, Bool.and_eq_true,
        Bool.not_eq_true'] at valueless unnamed opened
      exact absurd ⟨valueless, opened.1⟩ unnamed
  · have blanks := dropWhile_length_le isBlank rest
    have shorter := dropWhile_length_le (fun c => !isSemicolon c) (rest.dropWhile isBlank)
    omega

def hasSessionCookie (cookieHeader expectedToken : Bytes) : Bool :=
  if (cStr expectedToken).isEmpty then false
  else hasCookieFrom (cStr expectedToken) (cStr cookieHeader)

def csrfMatches (supplied expected : Bytes) : Bool :=
  let supplied := cStr supplied
  let expected := cStr expected
  if supplied.length == 0 || supplied.length != expected.length then false
  else constantTimeEquals supplied expected

end WebSessionPolicy

/-- The texts and the times of the session; there is none while its token is empty. -/
structure Session where
  sessionToken : Bytes := []
  csrfToken : Bytes := []
  sessionCreatedAt : UInt32 := 0
  sessionLastActivityAt : UInt32 := 0
  deriving DecidableEq, Inhabited

namespace Session

/-- A live session that the request brings the cookie of is kept alive by it. -/
def authenticated (now : UInt32) (cookie : Bytes) (session : Session) : Session × Bool :=
  if session.sessionToken.isEmpty then (session, false)
  else if WebSessionPolicy.expired session.sessionCreatedAt session.sessionLastActivityAt now then
    ({}, false)
  else if !WebSessionPolicy.hasSessionCookie cookie session.sessionToken then (session, false)
  else ({ session with sessionLastActivityAt := now }, true)

def randomToken (random : Random) : Bytes × Random := generateHex 16 random

def createSession (now : UInt32) (random : Random) : Session :=
  let (sessionToken, random) := randomToken random
  let (csrfToken, _) := randomToken random
  ⟨sessionToken, csrfToken, now, now⟩

end Session

end Web
