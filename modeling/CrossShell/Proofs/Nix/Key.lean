import CrossShell.Nix.Expression
import CrossShell.Proofs.Descriptor

/-!
The text that names a shell expression says everything that the expression depends on.

The text is JSON, so each of its fields can be read back from it: the descriptor, the package set
and whether the package set is for another machine. The expression depends on the host only through
the last of them.
-/

set_option autoImplicit false

namespace CrossShell

variable {d d' : Descriptor} {nixpkgs nixpkgs' : String} {host host' : Option Platform}

/-! ## What depends on the host -/

theorem Descriptor.shellEnv_congr (d : Descriptor) (h : d.isCross host = d.isCross host') :
    d.shellEnv host = d.shellEnv host' := by
  unfold Descriptor.shellEnv Descriptor.ownVariables
  rw [h]

namespace Nix

theorem ofDescriptor_congr (h : d.isCross host = d.isCross host') :
    Expression.ofDescriptor d nixpkgs host = Expression.ofDescriptor d nixpkgs host' := by
  unfold Expression.ofDescriptor
  rw [h, d.shellEnv_congr h]

theorem render_congr (h : d.isCross host = d.isCross host') :
    render d nixpkgs host = render d nixpkgs host' := by
  unfold render
  rw [ofDescriptor_congr h]

/-! ## What the text of a key says -/

theorem expressionKey_injective
    (h : (expressionKey d nixpkgs host).compact = (expressionKey d' nixpkgs' host').compact) :
    d = d' ∧ nixpkgs = nixpkgs' ∧ d.isCross host = d'.isCross host' := by
  have hchars := congrArg String.toList h
  rw [Json.compact, Json.compact, String.toList_ofList, String.toList_ofList] at hchars
  have hobject := congrArg (fun text => text ++ []) hchars
  simp only [expressionKey, Json.Reader.object_append] at hobject
  injection hobject with _ hfields
  obtain ⟨hd, hfields⟩ :=
    Json.Reader.compactFields_unique d.reads_reader d'.reads_reader hfields
  obtain ⟨hnixpkgs, hfields⟩ := Json.Reader.compactMoreFields_unique
    (Json.Reader.reads_text nixpkgs) (Json.Reader.reads_text nixpkgs') hfields
  obtain ⟨hcross, _⟩ := Json.Reader.compactMoreFields_unique
    (Json.Reader.reads_bool (d.isCross host)) (Json.Reader.reads_bool (d'.isCross host')) hfields
  exact ⟨hd, hnixpkgs, hcross⟩

/-- Two expressions with one key are the same. -/
theorem render_eq_of_expressionKey
    (h : (expressionKey d nixpkgs host).compact = (expressionKey d' nixpkgs' host').compact) :
    render d nixpkgs host = render d' nixpkgs' host' := by
  obtain ⟨rfl, rfl, hcross⟩ := expressionKey_injective h
  exact render_congr hcross

end Nix

end CrossShell
