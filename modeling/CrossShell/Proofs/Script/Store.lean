import CrossShell.Script.Evaluation

/-!
The tables of a store, and fields that are put into a table with room for them.
-/

set_option autoImplicit false

namespace CrossShell.Script

/-! ## Tables of a store -/

namespace Store

theorem tableAt_newTable (s : Store) (t : Table) :
    (s.newTable t).2.tableAt (s.newTable t).1 = t := by
  show (s.tables.push t).getD s.tables.size .empty = t
  rw [Array.getD_eq_getD_getElem?, Array.getElem?_push_size, Option.getD_some]

theorem tableAt_newTable_of_lt {s : Store} {address : Nat} (t : Table)
    (h : address < s.tables.size) : (s.newTable t).2.tableAt address = s.tableAt address := by
  show (s.tables.push t).getD address .empty = s.tables.getD address .empty
  rw [Array.getD_eq_getD_getElem?, Array.getD_eq_getD_getElem?, Array.getElem?_push_lt h,
    Array.getElem?_eq_getElem h]

theorem size_newTable (s : Store) (t : Table) :
    (s.newTable t).2.tables.size = s.tables.size + 1 :=
  Array.size_push t

end Store

/-! ## Fields of a table -/

theorem Value.ofText_ne_nil (text : String) : Value.ofText text ≠ .nil := nofun

namespace Table

variable {t t' : Table} {name : String} {v : Value}

/-- A field that is not there yet goes where `addNode` puts it. -/
theorem set_of_addNode (hnode : t.nodeOf? (.ofText name) = none) (hv : v ≠ .nil)
    (hadd : t.addNode (.ofText name) v = some t') : t.set (.ofText name) v = t' := by
  have hplace : t.place? (.ofText name) v = some t' := by
    have hslot : t.slotOf? (.ofText name) = none := rfl
    simp only [place?, hslot, hnode, if_neg hv, hadd]
  have hkey : (Value.ofText name).asKey = .ofText name := rfl
  have htouch : t.touch (.ofText name) = t := rfl
  simp only [set, hkey, htouch, hplace]

theorem fill_field (t : Table) (start : Nat) (key v : Value) (rest : Contents) :
    fill t start [] ((some key, [v]) :: rest) = fill (t.set key v) start [] rest := rfl

end Table

end CrossShell.Script
