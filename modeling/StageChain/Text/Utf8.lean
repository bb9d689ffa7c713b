import StageChain.Text.Hex

/-!
# Text files

A text file is a byte string in UTF-8 whose lines may end in a line feed, a carriage return, or
both; read as text, every line ends in a line feed.

* `unifyLineEnds_no_return`: a text that was read holds no carriage return.
* `decode?_encode`, `readText?_encode`: **a text that is written is read back.**
-/

namespace StageChain.Text

/-- The bytes of a text in UTF-8. -/
def encode (s : String) : Bytes := s.toUTF8.toList

/-- The text that the bytes stand for; `none` where they are not UTF-8. -/
def decode? (b : Bytes) : Option String := String.fromUTF8? ⟨b.toArray⟩

/-- The same lines, each ended by a line feed. -/
def unifyLineEnds : List Char → List Char
  | '\r' :: '\n' :: cs => '\n' :: unifyLineEnds cs
  | '\r' :: cs => '\n' :: unifyLineEnds cs
  | c :: cs => c :: unifyLineEnds cs
  | [] => []

/-- The content of a text file. -/
def readText? (b : Bytes) : Option (List Char) := (decode? b).map (unifyLineEnds ·.toList)

theorem unifyLineEnds_no_return (cs : List Char) : '\r' ∉ unifyLineEnds cs := by
  fun_induction unifyLineEnds cs with
  | case1 cs ih => simp [ih]
  | case2 cs _ ih => simp [ih]
  | case3 c cs _ h ih => simp_all [eq_comm]
  | case4 => simp

/-- The bytes of an array in a list. -/
theorem toList_loop (b : ByteArray) (i : Nat) (r : List UInt8) :
    ByteArray.toList.loop b i r = r.reverse ++ b.data.toList.drop i := by
  fun_induction ByteArray.toList.loop b i r with
  | case1 i r hlt ih =>
    have hlt' : i < b.data.toList.length := by simpa using hlt
    have hget : b.get! i = b.data.toList[i] := getElem!_pos b.data i hlt
    rw [ih, List.drop_eq_getElem_cons hlt', hget]
    simp
  | case2 i r hge =>
    rw [List.drop_eq_nil_of_le (by simpa using hge), List.append_nil]

/-- **A text that is written is read back.** -/
theorem decode?_encode (s : String) : decode? (encode s) = some s := by
  have hbytes : (⟨s.toUTF8.toList.toArray⟩ : ByteArray) = s.toUTF8 := by
    rw [ByteArray.toList, toList_loop]
    simp
  rw [decode?, encode, hbytes]
  exact dif_pos s.isValidUTF8

theorem unifyLineEnds_eq_self {cs : List Char} (h : '\r' ∉ cs) : unifyLineEnds cs = cs := by
  fun_induction unifyLineEnds cs with
  | case1 cs ih => simp at h
  | case2 cs _ ih => simp at h
  | case3 c cs _ hc ih => rw [ih fun hcs => h (List.mem_cons_of_mem c hcs)]
  | case4 => rfl

/-- A text without carriage returns is read back line by line. -/
theorem readText?_encode {s : String} (h : '\r' ∉ s.toList) :
    readText? (encode s) = some s.toList := by
  rw [readText?, decode?_encode, Option.map_some, unifyLineEnds_eq_self h]
end StageChain.Text
