/-!
# Cutting a list into pieces of one length

`chunks count size l` cuts `count` pieces of `size` elements from the front of `l`. Words of a
program, hexadecimal words of a dump and headers of a table are all laid out like that.

* `length_chunks`: there are as many pieces as were asked for;
* `flatten_chunks`: together they are the list, if its length is that of the pieces;
* `length_of_mem_chunks`: each of them then has the length that was asked for;
* `chunks_flatten`: pieces of one length that have been put together are found again.
-/

namespace Ebpf

/-- The first `count` pieces of a list, `size` elements each. -/
def chunks {α : Type} : (count size : Nat) → List α → List (List α)
  | 0, _, _ => []
  | count + 1, size, l => l.take size :: chunks count size (l.drop size)

@[simp] theorem length_chunks {α : Type} (count size : Nat) (l : List α) :
    (chunks count size l).length = count := by
  induction count generalizing l with
  | zero => rfl
  | succ count ih => simp [chunks, ih]

/-- The pieces make up the whole list. -/
theorem flatten_chunks {α : Type} {count size : Nat} {l : List α} (h : l.length = count * size) :
    (chunks count size l).flatten = l := by
  induction count generalizing l with
  | zero =>
    have : l = [] := List.length_eq_zero_iff.mp (by omega)
    simp [chunks, this]
  | succ count ih =>
    have hd : (l.drop size).length = count * size := by
      rw [List.length_drop, h, Nat.succ_mul]
      omega
    simp [chunks, ih hd]

/-- No piece is cut short. -/
theorem length_of_mem_chunks {α : Type} {count size : Nat} {l piece : List α}
    (h : l.length = count * size) (hpiece : piece ∈ chunks count size l) :
    piece.length = size := by
  induction count generalizing l with
  | zero => cases hpiece
  | succ count ih =>
    have hlen : l.length = count * size + size := by rw [h, Nat.succ_mul]
    rcases List.mem_cons.1 hpiece with rfl | hrest
    · rw [List.length_take]
      omega
    · exact ih (by rw [List.length_drop]; omega) hrest

/-- Pieces of one length are together as long as all of them. -/
theorem length_flatten_of_forall {α : Type} {size : Nat} {pieces : List (List α)}
    (h : ∀ piece ∈ pieces, piece.length = size) :
    pieces.flatten.length = pieces.length * size := by
  induction pieces with
  | nil => simp
  | cons piece pieces ih =>
    rw [List.flatten_cons, List.length_append, h piece List.mem_cons_self,
      ih fun p hp => h p (List.mem_cons_of_mem piece hp), List.length_cons, Nat.succ_mul,
      Nat.add_comm]

/-- Pieces of one length that follow one another are cut where they were put together. -/
theorem chunks_flatten {α : Type} {size : Nat} {pieces : List (List α)}
    (h : ∀ piece ∈ pieces, piece.length = size) :
    chunks pieces.length size pieces.flatten = pieces := by
  induction pieces with
  | nil => rfl
  | cons piece pieces ih =>
    have hfirst : piece.length = size := h piece List.mem_cons_self
    rw [List.length_cons, chunks, List.flatten_cons, List.take_left' hfirst,
      List.drop_left' hfirst, ih fun p hp => h p (List.mem_cons_of_mem piece hp)]

theorem chunks_flatMap {α β : Type} {size : Nat} {f : β → List α} (h : ∀ x, (f x).length = size)
    (xs : List β) : chunks xs.length size (xs.flatMap f) = xs.map f := by
  have hmap : ∀ piece ∈ xs.map f, piece.length = size := by
    intro piece hpiece
    obtain ⟨x, -, rfl⟩ := List.mem_map.1 hpiece
    exact h x
  have hchunks := chunks_flatten hmap
  rwa [List.length_map] at hchunks

end Ebpf
