import RoutineVisibility.Text.Basic
import RoutineVisibility.Text.Printable

/-! Quoted text, with the quote in use and all that is not printable escaped. -/
namespace RoutineVisibility.Text

/-- At least `width` hexadecimal digits. -/
def hexDigits (width n : Nat) : List Char :=
  let ds := Nat.toDigits 16 n
  List.replicate (width - ds.length) '0' ++ ds

def quoteMark (points : List Nat) : Char :=
  if points.contains '\''.toNat && !points.contains '"'.toNat then '"' else '\''

def escapePoint (quote : Char) (n : Nat) : List Char :=
  if n = quote.toNat ∨ n = '\\'.toNat then ['\\', Char.ofNat n]
  else if n = '\n'.toNat then ['\\', 'n']
  else if n = '\r'.toNat then ['\\', 'r']
  else if n = '\t'.toNat then ['\\', 't']
  else if !isSurrogate n && isPrintable (Char.ofNat n) then [Char.ofNat n]
  else if n < 0x100 then '\\' :: 'x' :: hexDigits 2 n
  else if n < 0x10000 then '\\' :: 'u' :: hexDigits 4 n
  else '\\' :: 'U' :: hexDigits 8 n

def quoted (t : Text) : String :=
  let q := quoteMark t.points
  String.ofList (q :: t.points.flatMap (escapePoint q) ++ [q])

end RoutineVisibility.Text
