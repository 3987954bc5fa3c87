import PromptCad.Files.Stream

/-! Bytes that come through a stream piece by piece come as if in one piece, whatever is behind the stream. -/

namespace PromptCad.Stream

variable {bytes a b : ByteArray} {place : Nat}

theorem size_upTo (bytes : ByteArray) (place : Nat) : (upTo bytes place).size = place := by
  have hzeros : ByteArray.size ⟨Array.replicate (place - bytes.size) 0⟩ = place - bytes.size := Array.size_replicate
  rw [upTo, ByteArray.size_append, ByteArray.size_extract, hzeros]
  omega

theorem upTo_append (h : place = a.size) : upTo (a ++ b) place = a := by
  subst h
  rw [upTo, ByteArray.extract_append_eq_left rfl, ByteArray.size_append, Nat.sub_eq_zero_of_le (Nat.le_add_right _ _)]
  exact ByteArray.append_empty

theorem extract_to_size {i j : Nat} (h : bytes.size ≤ j ∨ bytes.size ≤ i) :
    bytes.extract i j = bytes.extract i bytes.size := by
  refine ByteArray.ext ?_
  rw [ByteArray.data_extract, ByteArray.data_extract]
  have hsize : bytes.data.size = bytes.size := rfl
  grind

theorem overlay_overlay (bytes : ByteArray) (place : Nat) (a b : ByteArray) :
    overlay (overlay bytes place a) (place + a.size) b = overlay bytes place (a ++ b) := by
  have hfront : (upTo bytes place ++ a).size = place + a.size := by rw [ByteArray.size_append, size_upTo]
  have hrest : (overlay bytes place a).extract (place + a.size + b.size) (overlay bytes place a).size =
      bytes.extract (place + (a ++ b).size) bytes.size := by
    rw [overlay, ← hfront, ByteArray.size_append (a := upTo bytes place ++ a), ByteArray.extract_append_size_add,
      ByteArray.extract_extract, ByteArray.size_extract, hfront, ByteArray.size_append, Nat.add_assoc]
    exact extract_to_size (by omega)
  rw [overlay, hrest, overlay, upTo_append hfront.symm, overlay, ByteArray.append_assoc (a := upTo bytes place)]

theorem isEmpty_iff : bytes.isEmpty = true ↔ bytes = .empty := by
  rw [← ByteArray.size_eq_zero_iff]
  simp [ByteArray.isEmpty]

@[simp] theorem print_empty (s : Stream) : s.print .empty = s := rfl

theorem print_print (s : Stream) (a b : ByteArray) : (s.print a).print b = s.print (a ++ b) := by
  by_cases ha : a.isEmpty
  · rw [isEmpty_iff.mp ha, print_empty, ByteArray.empty_append]
  by_cases hb : b.isEmpty
  · rw [isEmpty_iff.mp hb, print_empty, ByteArray.append_empty]
  have hab : ¬(a ++ b).isEmpty := by
    simp only [ByteArray.isEmpty, ByteArray.size_append, beq_iff_eq] at *
    omega
  rcases s with ⟨_ | _ | place, bytes⟩
  · simp only [print, if_neg ha, if_neg hb, if_neg hab, ByteArray.append_assoc]
  · simp only [print, if_neg ha, if_neg hb, if_neg hab, ByteArray.append_assoc]
  · simp only [print, if_neg ha, if_neg hb, if_neg hab, overlay_overlay, ByteArray.size_append, Nat.add_assoc]

theorem bytes_print_new (more : ByteArray) : (print {} more).bytes = more := by
  by_cases h : more.isEmpty
  · rw [isEmpty_iff.mp h]
    rfl
  · rw [print, if_neg h]
    exact ByteArray.empty_append

theorem bytes_write_ne_empty (s : Stream) {more : ByteArray} (h : more ≠ .empty) : (s.write more).bytes ≠ .empty := by
  rcases s with ⟨_ | _ | place, bytes⟩
  · exact fun hempty => h (ByteArray.append_eq_empty_iff.mp hempty).2
  · exact h
  · exact h

@[simp] theorem renewed_renewed (s : Stream) : s.renewed.renewed = s.renewed := by
  rcases s with ⟨_ | _ | place, bytes⟩ <;> rfl

@[simp] theorem renewed_print (s : Stream) (more : ByteArray) : (s.print more).renewed = s.renewed := by
  unfold print
  split
  · rfl
  · rcases s with ⟨_ | _ | place, bytes⟩ <;> rfl

end PromptCad.Stream
