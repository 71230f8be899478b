namespace Letterbox.Text

def digitChar (n : Nat) : Char :=
  Char.ofNat (48 + n % 10)

def isDigit (c : Char) : Bool :=
  48 ≤ c.toNat && c.toNat ≤ 57

def digitValue (c : Char) : Nat :=
  c.toNat - 48

def digits (n : Nat) : List Char :=
  if n < 10 then [digitChar n]
  else digits (n / 10) ++ [digitChar n]
  termination_by n
  decreasing_by omega

def intDigits (i : Int) : List Char :=
  if i < 0 then '-' :: digits i.natAbs else digits i.natAbs

def ofDigits (s : List Char) : Nat :=
  s.foldl (fun n c => n * 10 + digitValue c) 0

def padded (width n : Nat) : List Char :=
  let s := digits n
  List.replicate (width - s.length) '0' ++ s

def hexDigit (n : Nat) : Char :=
  if n < 10 then Char.ofNat (48 + n) else Char.ofNat (87 + n)

def hexValue? (c : Char) : Option Nat :=
  let n := c.toNat
  if 48 ≤ n && n ≤ 57 then some (n - 48)
  else if 97 ≤ n && n ≤ 102 then some (n - 87)
  else if 65 ≤ n && n ≤ 70 then some (n - 55)
  else none

end Letterbox.Text
