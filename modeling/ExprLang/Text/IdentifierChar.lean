/-!
The characters of identifiers. Two properties of characters decide what a name is, `XID_Start` for
its first character and `XID_Continue` for the others, and the underscore may stand anywhere in it.
Which characters have the properties depends on the version of Unicode, so reading a text takes them
as they come and relies on two facts only: what begins a name may also go on with it, and the
characters that part tokens are in no name.
-/
set_option autoImplicit false

namespace ExprLang

/-- Characters in front of which a name is over: NUL, which stands for the end, the blanks, the quote
and the slash. -/
def nameSeparators : List Char := ['\x00', '\t', '\n', '\r', ' ', '"', '/']

/-- The properties `XID_Start` and `XID_Continue` of characters. -/
class IdentifierClasses where
  xidStart : Char → Bool
  xidContinue : Char → Bool
  continue_of_start {c : Char} : xidStart c = true → xidContinue c = true
  separators_outside : ∀ c ∈ nameSeparators, xidContinue c = false

variable [IdentifierClasses]

/-- A name may begin with this character. -/
def startsIdentifier (c : Char) : Bool := c == '_' || IdentifierClasses.xidStart c

/-- A name that has begun may go on with this character. -/
def continuesIdentifier (c : Char) : Bool := c == '_' || IdentifierClasses.xidContinue c

theorem continuesIdentifier_of_startsIdentifier {c : Char} (h : startsIdentifier c = true) :
    continuesIdentifier c = true := by
  rw [startsIdentifier, Bool.or_eq_true] at h
  rw [continuesIdentifier, Bool.or_eq_true]
  exact h.imp id IdentifierClasses.continue_of_start

theorem continuesIdentifier_eq_false {c : Char} (h : c ∈ nameSeparators) :
    continuesIdentifier c = false := by
  have hunderscore : c ≠ '_' := by
    rintro rfl
    exact absurd h (by decide)
  rw [continuesIdentifier, IdentifierClasses.separators_outside c h, Bool.or_false]
  exact beq_false_of_ne hunderscore

end ExprLang
