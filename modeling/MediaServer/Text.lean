import Mathlib.Data.List.Basic

/-! Character strings with the searches, splits and number readings that text formats use. A
reading of a number is of the whole string. The file names nothing of the server. -/
namespace MediaServer

abbrev Text := List Char

namespace Text

def lower (text : Text) : Text := text.map Char.toLower

def cut (separator : Char) : Text → Option (Text × Text)
  | [] => none
  | c :: rest =>
    if c = separator then some ([],rest)
    else (cut separator rest).map fun parts => (c :: parts.1,parts.2)

theorem cutSome {separator : Char} {value name rest : Text} :
    cut separator value = some (name,rest) ↔ value = name ++ separator :: rest ∧ separator ∉ name := by
  induction value generalizing name with
  | nil => simp [cut]
  | cons c value ih =>
    by_cases same : c = separator
    · cases name with
      | nil => simp [cut,same,eq_comm]
      | cons d name => simp +contextual [cut,same]
    · cases name with
      | nil => simp [cut,same]
      | cons d name =>
        simp only [cut,if_neg same,Option.map_eq_some_iff,Prod.exists,Prod.mk.injEq,List.cons.injEq,
          List.cons_append,List.mem_cons,not_or]
        constructor
        · rintro ⟨a,b,found,⟨rfl,rfl⟩,rfl⟩
          obtain ⟨whole,absent⟩ := ih.mp found
          exact ⟨⟨rfl,whole⟩,fun equal => same equal.symm,absent⟩
        · rintro ⟨⟨rfl,whole⟩,_,absent⟩
          exact ⟨name,rest,ih.mpr ⟨whole,absent⟩,⟨rfl,rfl⟩,rfl⟩

def decimal (n : Nat) : Text := Nat.toDigits 10 n

def showInt : Int → Text
  | .ofNat n => decimal n
  | .negSucc n => '-' :: decimal (n + 1)

def natural (text : Text) : Option Nat :=
  if !text.isEmpty && text.all Char.isDigit then some (Nat.ofDigitChars 10 text 0) else none

def isSpace (c : Char) : Bool :=
  c = ' ' || c = '\t' || c = '\n' || c = '\r' || c.toNat = 11 || c.toNat = 12

theorem decimalDigits {n : Nat} {c : Char} (member : c ∈ decimal n) : c.isDigit = true :=
  Nat.isDigit_of_mem_toDigits (by decide) (by decide) member

theorem decimalNonempty (n : Nat) : decimal n ≠ [] := Nat.toDigits_ne_nil

theorem naturalDecimal (n : Nat) : natural (decimal n) = some n := by
  have digits : (decimal n).all Char.isDigit = true :=
    List.all_eq_true.mpr fun c member => decimalDigits member
  have some_ : (decimal n).isEmpty = false := by
    simpa using decimalNonempty n
  rw [natural,digits,some_]
  simp only [Bool.not_false,Bool.and_self,if_true,Option.some.injEq]
  exact Nat.ofDigitChars_toDigits (by decide) (by decide)

end Text

end MediaServer
