import CrossShell.Config.Shape
import CrossShell.Proofs.Text.Utf8

/-!
What is read off the values of a script: texts, and the fields of a config one at a time.
-/

set_option autoImplicit false

namespace CrossShell.Config

open Script (Store Table Value)

variable {s : Store} {address : Nat} {draft : Draft} {v : Value}

theorem decodeText_ofText (s : Store) (text : String) : decodeText s (.ofText text) = .ok text := by
  simp only [decodeText, Value.ofText, decodeString, Text.mk_bytesOf, Text.decode?_encode]

theorem decodeFieldName_ofText {name : String}
    (h : Text.decodeLossy (Text.encode name) = name) :
    decodeFieldName s (.ofText name) = .ok name := by
  show Except.ok (Text.decodeLossy
    (ByteArray.mk (Script.Literal.bytesOf name.toList).toArray)) = _
  rw [Text.mk_bytesOf, h]

theorem refuseRecursion_ofText (around : List Nat) (text : String) :
    refuseRecursion around (.ofText text) = .ok () := rfl

theorem refuseRecursion_of_not_mem {around : List Nat} {inner : Nat} (h : inner ∉ around) :
    refuseRecursion around (.table inner) = .ok () := by
  have hcontains : around.contains inner = false := by simp [h]
  simp only [refuseRecursion, hcontains, Bool.false_eq_true, if_false]

/-! ## Fields -/

theorem decodeField_target (text : String) :
    decodeField s address draft (.ofText "target", .ofText text) =
      .ok { draft with target := some text } := by
  have hname : decodeFieldName s (.ofText "target") = .ok "target" :=
    decodeFieldName_ofText (by decide +kernel)
  simp only [decodeField, refuseRecursion_ofText, hname, decodeText_ofText, bind, Except.bind,
    pure, Except.pure]

theorem decodeField_nativeBuildInputs {names : List String}
    (hflat : refuseRecursion [address] v = .ok ()) (h : decodeList s [address] v = .ok names) :
    decodeField s address draft (.ofText "native_build_inputs", v) =
      .ok { draft with nativeBuildInputs := names } := by
  have hname : decodeFieldName s (.ofText "native_build_inputs") = .ok "native_build_inputs" :=
    decodeFieldName_ofText (by decide +kernel)
  simp only [decodeField, refuseRecursion_ofText, hname, hflat, h, bind, Except.bind, pure,
    Except.pure]

theorem decodeField_buildInputs {names : List String}
    (hflat : refuseRecursion [address] v = .ok ()) (h : decodeList s [address] v = .ok names) :
    decodeField s address draft (.ofText "build_inputs", v) =
      .ok { draft with buildInputs := names } := by
  have hname : decodeFieldName s (.ofText "build_inputs") = .ok "build_inputs" :=
    decodeFieldName_ofText (by decide +kernel)
  simp only [decodeField, refuseRecursion_ofText, hname, hflat, h, bind, Except.bind, pure,
    Except.pure]

end CrossShell.Config
