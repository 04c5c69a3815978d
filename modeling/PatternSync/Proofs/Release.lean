import Mathlib.Data.List.Basic
import Mathlib.Data.List.InsertIdx
import PatternSync.Proofs.FinalizerPatch

/-!
# Taking the finalizer off

The patch that removes the finalizer names it by its position, and tests that it is still there.
Main statement: on the pattern from which the position was read the patch goes through, and takes
that one entry off the list of finalizers (`applyAll_removeFinalizer`).
-/

namespace PatternSync

open Json Wire

/-! ## Indices -/

namespace Pointer

theorem head?_toDigits {n : Nat} (h : 0 < n) : (Nat.toDigits 10 n).head? ≠ some '0' := by
  induction n using Nat.strongRecOn with
  | _ n ih =>
    rw [Nat.toDigits_eq_if (by decide)]
    split
    · rename_i hdigit
      have hdigits : ∀ d : Fin 10, 0 < d.val → [d.val.digitChar].head? ≠ some '0' := by decide
      exact hdigits ⟨n, hdigit⟩ h
    · rename_i hlarge
      have hless : n / 10 < n := Nat.div_lt_self h (by decide)
      have hpositive : 0 < n / 10 := Nat.div_pos (Nat.not_lt.1 hlarge) (by decide)
      rw [List.head?_append_of_ne_nil _ Nat.toDigits_ne_nil]
      exact ih _ hless hpositive

theorem index?_toString (n : Nat) : index? (toString n) = some n := by
  have htext : (toString n).toList = Nat.toDigits 10 n := by
    rw [Nat.toString_eq_ofList_toDigits, String.toList_ofList]
  have hdigits : (Nat.toDigits 10 n).all Char.isDigit = true :=
    List.all_eq_true.2 fun c hc => Nat.isDigit_of_mem_toDigits (by decide) (by decide) hc
  have hvalue : Text.digitsValue (Nat.toDigits 10 n) = n := by
    rw [Text.digitsValue_eq, Nat.ofDigitChars_ten_toDigits]
  cases n with
  | zero => decide
  | succ m =>
    have hhead := head?_toDigits (Nat.succ_pos m)
    unfold index?
    rw [htext]
    split
    · rename_i heq
      exact absurd heq Nat.toDigits_ne_nil
    · rename_i heq
      rw [heq] at hhead
      exact absurd rfl hhead
    · rename_i heq
      rw [heq] at hhead
      exact absurd rfl hhead
    · rw [if_pos hdigits, hvalue]

end Pointer

/-! ## The stored list -/

theorem Wire.eq_str_of_text {j : Json} {s : String} (h : text j = s) (hs : s ≠ "") :
    j = .str s := by
  cases j with
  | str t => exact congrArg Json.str h
  | null | bool | num | arr | obj => exact absurd h.symm hs

namespace PatchOp

variable {path : String} {pointer : Pointer} (h : Pointer.ofText? path = some pointer)

include h

theorem applied?_test (j value : Json) :
    (test path value).applied? j = if orNull (j.at? pointer) = value then some j else none := by
  show (Pointer.ofText? path).bind _ = _
  rw [h]
  rfl

theorem applied?_remove (j : Json) :
    (remove path).applied? j = j.changeAround? removeChild? pointer := by
  show (Pointer.ofText? path).bind _ = _
  rw [h]
  rfl

end PatchOp

namespace Pattern

variable {members : Keyed Json} {index : Nat}

theorem object_metadata (hcheck : shape.check (.obj members) = .ok ()) {j : Json}
    (h : Keyed.get? members "metadata" = some j) : ∃ metadata, j = .obj metadata := by
  have hmember := (Shape.check_record.1 hcheck).1 _ (Keyed.mem_of_get? h)
  have hshape : Metadata.shape.check j = .ok () := hmember
  cases j with
  | obj metadata => exact ⟨metadata, rfl⟩
  | null | bool | num | str | arr => simp [Metadata.shape, Shape.check, Shape.refuse] at hshape

theorem finalizerList_ofJson {metadata : Keyed Json}
    (h : Keyed.get? members "metadata" = some (.obj metadata)) :
    (ofJson (.obj members)).metadata.finalizerList
      = listOf text (Keyed.get? metadata "finalizers") := by
  have hmetadata : (ofJson (.obj members)).metadata = Metadata.ofJson (.obj metadata) := by
    have hfield : shape.field? (.obj members) "metadata" = some (.obj metadata) := h
    rw [ofJson, hfield]
    rfl
  have hfinalizers : (Metadata.ofJson (.obj metadata)).finalizerList
      = (optional (fun l => listOf text (some l)) (Keyed.get? metadata "finalizers")).getD [] :=
    rfl
  rw [hmetadata, hfinalizers]
  cases Keyed.get? metadata "finalizers" with
  | none => rfl
  | some list => cases list <;> rfl

/-- A finalizer that is read from a stored pattern stands there as a text. -/
theorem exists_stored_finalizer (hcheck : shape.check (.obj members) = .ok ())
    (h : (ofJson (.obj members)).finalizerIndex? = some index) :
    ∃ metadata items, Keyed.get? members "metadata" = some (.obj metadata)
      ∧ Keyed.get? metadata "finalizers" = some (.arr items)
      ∧ items[index]? = some (.str finalizer) := by
  obtain ⟨hlength, hitem, -⟩ := List.idxOf?_eq_some_iff.1 h
  have hread := List.getElem?_eq_some_iff.2 ⟨hlength, hitem⟩
  cases hmetadata : Keyed.get? members "metadata" with
  | none =>
    have hnone : (ofJson (.obj members)).metadata.finalizerList = [] := by
      have hfield : shape.field? (.obj members) "metadata" = none := hmetadata
      rw [ofJson, hfield]
      rfl
    rw [hnone] at hread
    cases hread
  | some j =>
    obtain ⟨metadata, rfl⟩ := object_metadata hcheck hmetadata
    rw [finalizerList_ofJson hmetadata] at hread
    cases hfinalizers : Keyed.get? metadata "finalizers" with
    | none =>
      rw [hfinalizers] at hread
      cases hread
    | some list =>
      rw [hfinalizers] at hread
      cases list with
      | arr items =>
        have hmapped : (items.map text)[index]? = some finalizer := hread
        rw [List.getElem?_map, Option.map_eq_some_iff] at hmapped
        obtain ⟨item, hstored, htext⟩ := hmapped
        obtain rfl := eq_str_of_text htext (by decide)
        exact ⟨metadata, items, rfl, hfinalizers, hstored⟩
      | null | bool | num | str | obj => cases hread

/-- The finalizer can be taken off where it was read, and nothing else of the list is. -/
theorem applyAll_removeFinalizer (hcheck : shape.check (.obj members) = .ok ())
    (h : (ofJson (.obj members)).finalizerIndex? = some index) :
    ∃ after, PatchOp.applyAll (.obj members) (removeFinalizer index) = .ok (.obj after)
      ∧ (ofJson (.obj after)).metadata.finalizerList
        = (ofJson (.obj members)).metadata.finalizerList.eraseIdx index := by
  obtain ⟨metadata, items, hmetadata, hfinalizers, hitem⟩ := exists_stored_finalizer hcheck h
  have hpath := Pointer.ofText?_finalizer index
  have hindex := Pointer.index?_toString index
  have hlength : index < items.length := (List.getElem?_eq_some_iff.1 hitem).1
  let shorter := Keyed.put "finalizers" (.arr (items.eraseIdx index)) metadata
  let after := Keyed.put "metadata" (.obj shorter) members
  have hmember : (Json.obj members).child? "metadata" = some (.obj metadata) := hmetadata
  have hlist : (Json.obj metadata).child? "finalizers" = some (.arr items) := hfinalizers
  have hfound : (Json.obj members).at? ["metadata", "finalizers", toString index]
      = some (.str finalizer) := by
    have hentry : (Json.arr items).child? (toString index) = some (.str finalizer) := by
      rw [child?, hindex, Option.bind_some, hitem]
    rw [at?, hmember, Option.bind_some, at?, hlist, Option.bind_some, at?, hentry]
    rfl
  have hshorter : (Json.arr items).removeChild? (toString index)
      = some (.arr (items.eraseIdx index)) := by
    rw [removeChild?, hindex, Option.bind_some, if_pos hlength]
  have htest : (PatchOp.test ("/metadata/finalizers/" ++ toString index)
      (.str finalizer)).applied? (.obj members) = some (.obj members) := by
    rw [PatchOp.applied?_test hpath, hfound]
    exact if_pos rfl
  have hremove : (PatchOp.remove ("/metadata/finalizers/" ++ toString index)).applied?
      (.obj members) = some (.obj after) := by
    rw [PatchOp.applied?_remove hpath, changeAround?, hmember, Option.bind_some, changeAround?,
      hlist, Option.bind_some, changeAround?, hshorter]
    · rfl
    · exact List.cons_ne_nil _ _
    · exact List.cons_ne_nil _ _
  have happlied : PatchOp.applyAll (.obj members) (removeFinalizer index) = .ok (.obj after) := by
    simp only [removeFinalizer, PatchOp.applyAll, htest, hremove]
  refine ⟨after, happlied, ?_⟩
  rw [finalizerList_ofJson hmetadata, hfinalizers,
    finalizerList_ofJson (Keyed.get?_put_self "metadata" (.obj shorter) members),
    Keyed.get?_put_self]
  exact (List.eraseIdx_map text items index).symm

end Pattern

end PatternSync
