import Mathlib.Data.List.Basic

/-! Byte strings and the big-endian words in them, with shifts and masks written as
arithmetic. A read takes the bytes from its position on and treats a missing byte as
zero; every caller checks the size first. The file names nothing of the server. -/
namespace MediaServer

abbrev Bytes := List UInt8

namespace Bytes

def u16 (v : UInt16) : Bytes := [UInt8.ofNat (v.toNat / 256),UInt8.ofNat (v.toNat % 256)]

def u32 (v : UInt32) : Bytes :=
  [UInt8.ofNat (v.toNat / 16777216),UInt8.ofNat (v.toNat / 65536 % 256),
    UInt8.ofNat (v.toNat / 256 % 256),UInt8.ofNat (v.toNat % 256)]

def readU16 (data : Bytes) : UInt16 :=
  UInt16.ofNat ((data.getD 0 0).toNat * 256 + (data.getD 1 0).toNat)

def readU32 (data : Bytes) : UInt32 :=
  UInt32.ofNat ((data.getD 0 0).toNat * 16777216 + (data.getD 1 0).toNat * 65536 +
    (data.getD 2 0).toNat * 256 + (data.getD 3 0).toNat)

def writeU16 (data : Bytes) (position : Nat) (v : UInt16) : Bytes :=
  (data.set position (UInt8.ofNat (v.toNat / 256))).set (position + 1)
    (UInt8.ofNat (v.toNat % 256))

def readArray (n : Nat) (data : Bytes) : Vector UInt8 n := Vector.ofFn fun i => data.getD i 0

@[simp] theorem u16Length (v : UInt16) : (u16 v).length = 2 := rfl
@[simp] theorem u32Length (v : UInt32) : (u32 v).length = 4 := rfl

@[simp] theorem readU16Written (v : UInt16) (rest : Bytes) : readU16 (u16 v ++ rest) = v := by
  have bound := v.toNat_lt
  apply UInt16.toNat_inj.mp
  simp only [readU16,u16,List.cons_append,List.nil_append,List.getD_cons_zero,
    List.getD_cons_succ,UInt8.toNat_ofNat',UInt16.toNat_ofNat']
  omega

@[simp] theorem readU32Written (v : UInt32) (rest : Bytes) : readU32 (u32 v ++ rest) = v := by
  have bound := v.toNat_lt
  apply UInt32.toNat_inj.mp
  simp only [readU32,u32,List.cons_append,List.nil_append,List.getD_cons_zero,
    List.getD_cons_succ,UInt8.toNat_ofNat',UInt32.toNat_ofNat']
  omega

theorem u16Read (data : Bytes) (two : data.length = 2) : u16 (readU16 data) = data := by
  match data, two with
  | [a,b], _ =>
    have ha := a.toNat_lt
    have hb := b.toNat_lt
    simp only [u16,readU16,List.getD_cons_zero,List.getD_cons_succ,UInt16.toNat_ofNat',
      List.cons.injEq,← UInt8.toNat_inj,UInt8.toNat_ofNat',and_true]
    omega

theorem u32Read (data : Bytes) (four : data.length = 4) : u32 (readU32 data) = data := by
  match data, four with
  | [a,b,c,d], _ =>
    have ha := a.toNat_lt
    have hb := b.toNat_lt
    have hc := c.toNat_lt
    have hd := d.toNat_lt
    simp only [u32,readU32,List.getD_cons_zero,List.getD_cons_succ,UInt32.toNat_ofNat',
      List.cons.injEq,← UInt8.toNat_inj,UInt8.toNat_ofNat',and_true]
    omega

@[simp] theorem writeU16Length (data : Bytes) (position : Nat) (v : UInt16) :
    (writeU16 data position v).length = data.length := by simp [writeU16]

theorem writeU16Other (data : Bytes) (position i : Nat) (v : UInt16) (left : i ≠ position)
    (right : i ≠ position + 1) : (writeU16 data position v)[i]? = data[i]? := by
  unfold writeU16
  rw [List.getElem?_set_ne (Ne.symm right),List.getElem?_set_ne (Ne.symm left)]

@[simp] theorem readArrayWritten {n : Nat} (v : Vector UInt8 n) (rest : Bytes) :
    readArray n (v.toList ++ rest) = v := by
  apply Vector.ext
  intro i inside
  simp [readArray,List.getElem?_append_left]

def le32 (v : UInt32) : Bytes := (u32 v).reverse

theorem le32Inj {a b : UInt32} (same : le32 a = le32 b) : a = b := by
  have words := congrArg readU32 (List.reverse_inj.mp same)
  have left := readU32Written a []
  have right := readU32Written b []
  rw [List.append_nil] at left right
  exact left.symm.trans (words.trans right)

theorem readArrayToList {n : Nat} {data : Bytes} (exact_ : data.length = n) :
    (readArray n data).toList = data := by
  apply List.ext_getElem
  · simp [exact_]
  · intro i _ inside
    simp [readArray,inside]

theorem readU16Congr {a b : Bytes} (first : a[0]? = b[0]?) (second : a[1]? = b[1]?) :
    readU16 a = readU16 b := by
  simp only [readU16,List.getD_eq_getElem?_getD,first,second]

theorem readArrayCongr {n : Nat} {a b : Bytes} (same : ∀ i, i < n → a[i]? = b[i]?) :
    readArray n a = readArray n b := by
  apply Vector.ext
  intro i inside
  simp [readArray,same i inside]

end Bytes
end MediaServer
