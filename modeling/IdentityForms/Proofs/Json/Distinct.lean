import IdentityForms.Proofs.Json.Soundness

/-! Values that are read from texts. A repeated key replaces the member it had before, so no
object that is read names a member twice. -/
namespace IdentityForms.Json

/-- No object of the value, however deep, names a member twice. -/
inductive Distinct : Json → Prop where
  | null : Distinct .null
  | bool (value : Bool) : Distinct (.bool value)
  | number (value : Number) : Distinct (.number value)
  | string (value : String) : Distinct (.string value)
  | array (items : List Json) (h : ∀ item ∈ items, Distinct item) : Distinct (.array items)
  | object (members : List (String × Json)) (hnames : (members.map Prod.fst).Nodup)
      (h : ∀ member ∈ members, Distinct member.2) : Distinct (.object members)

variable {depth : Nat} {json : Json} {text : List Char}

theorem ScalarText.distinct (h : ScalarText json text) : json.Distinct := by
  cases h with
  | null => exact .null
  | true => exact .bool _
  | false => exact .bool _
  | number number _ _ => exact .number number
  | string value _ _ => exact .string value

theorem ValueText.distinct (h : ValueText depth json text) : json.Distinct := by
  induction depth generalizing json text with
  | zero => exact ScalarText.distinct h
  | succ depth ih =>
    cases h with
    | scalar _ _ h => exact h.distinct
    | array items _ h =>
      obtain ⟨texts, htexts, -⟩ := h
      refine .array items fun item hitem => ?_
      obtain ⟨_, hpadded, -⟩ := Except.exists_of_mem_forall₂ htexts hitem
      obtain ⟨inner, hinner, -⟩ := exists_of_padded hpadded
      exact ih hinner
    | object members _ h =>
      obtain ⟨texts, htexts, -⟩ := h
      refine .object _ (Entries.nodup_names_ofList members) fun member hmember => ?_
      obtain ⟨_, ⟨key, value, -, hvalue, -⟩, -⟩ :=
        Except.exists_of_mem_forall₂ htexts (Entries.mem_of_mem_ofList hmember)
      obtain ⟨inner, hinner, -⟩ := exists_of_padded hvalue
      exact ih hinner

theorem distinct_of_ofText {text : String} {json : Json} (h : ofText text = .ok json) :
    json.Distinct := by
  obtain ⟨inner, hinner, -⟩ := exists_of_padded (ofText_eq_ok_iff.mp h)
  exact hinner.distinct

end IdentityForms.Json
