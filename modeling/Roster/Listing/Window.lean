import Roster.Listing.Error

/-!
# Page windows

A page number and a page size. The size −1 stands for no limit. Both numbers are written as an
optional sign and ASCII digits, must fit 64 bits, and so must the offset of the first row.
-/

namespace Roster.Listing

structure Window where
  page : Int := 1
  pageSize : Int := -1
  deriving DecidableEq

def unlimited : Int := -1

def Window.offset (window : Window) : Int :=
  (window.page - 1) * window.pageSize

def readNumber (parameter raw : String) : Except Error Int :=
  let (negative, digits) := splitSign raw.toList
  if digits.isEmpty || !digits.all Char.isDigit then .error (.notInteger parameter raw)
  else if maxIntegerDigits < digits.length then .error (.tooManyDigits digits.length)
  else
    let number := applySign negative (natOfDigits 10 (digits.map fun c => c.toNat - 0x30))
    if fitsInt64 number then .ok number else .error (.notInteger parameter raw)

/-- Reads a window; an absent text stands for page 1 or for no limit. -/
def Window.parse (rawPage rawPageSize : Option String) : Except Error Window := do
  let page ← readNumber "page" (rawPage.getD "1")
  let pageSize ← readNumber "pageSize" (rawPageSize.getD "-1")
  if page < 1 then throw (.invalid "page")
  if pageSize < unlimited then throw (.invalid "pageSize")
  if 0 < pageSize ∧ maxInt64 < (page - 1) * pageSize then throw (.invalid "page")
  return { page, pageSize }

end Roster.Listing
