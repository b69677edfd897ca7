import DocSite.Json.Fields
import DocSite.Proofs.Json.RoundTrip

/-!
# Fields of written objects

* A member is looked up from the end of the object (`member?_append`, `member?_cons`).
* A field is read back by a decoder that undoes its encoder (`Undoes`), be it null when it is unset
  (`Undoes.optional_getD`) or left out then (`Undoes.optional_map`), and so is a list
  (`list_array_map`).
-/

namespace DocSite.Json

/-! ### Looking members up -/

section Members

variable {name : String}

theorem member?_append (xs ys : List (String × Json)) :
    member? name (object (xs ++ ys)) =
      (member? name (object ys)).or (member? name (object xs)) := by
  simp only [member?, List.reverse_append, List.find?_append, Option.map_or]

@[simp]
theorem member?_nil : member? name (object []) = none :=
  rfl

theorem member?_singleton (m : String × Json) :
    member? name (object [m]) = if m.1 = name then some m.2 else none := by
  by_cases hname : m.1 = name <;> simp [member?, hname]

theorem member?_cons (m : String × Json) (ms : List (String × Json)) :
    member? name (object (m :: ms)) =
      (member? name (object ms)).or (if m.1 = name then some m.2 else none) := by
  rw [← List.singleton_append, member?_append, member?_singleton]

end Members

/-! ### Reading what was written -/

section Decoding

variable {α : Type} {decode : Json → Option α} {encode : α → Json}

theorem ofString?_eq (s : Option String) : ofString? s = (s.map string).getD null := by
  cases s <;> rfl

theorem optional_some {v : Json} (h : v ≠ null) :
    optional decode (some v) = (decode v).map some := by
  cases v <;> first | rfl | exact absurd rfl h

/-- A decoder reads what an encoder writes, and null is not written. -/
structure Undoes (decode : Json → Option α) (encode : α → Json) : Prop where
  ne_null : ∀ a, encode a ≠ null
  decode_encode : ∀ a, decode (encode a) = some a

/-- A field that is left out when it is unset. -/
theorem Undoes.optional_map (h : Undoes decode encode) (a : Option α) :
    optional decode (a.map encode) = some a := by
  cases a with
  | none => rfl
  | some a => rw [Option.map_some, optional_some (h.ne_null a), h.decode_encode, Option.map_some]

/-- A field that is null when it is unset. -/
theorem Undoes.optional_getD (h : Undoes decode encode) (a : Option α) :
    optional decode (some ((a.map encode).getD null)) = some a := by
  cases a with
  | none => rfl
  | some a => exact h.optional_map (some a)

@[simp]
theorem withDefault_none (default : α) : withDefault default decode none = some default :=
  rfl

@[simp]
theorem withDefault_some (default : α) (v : Json) :
    withDefault default decode (some v) = decode v :=
  rfl

theorem mapM_map {as : List α} (h : ∀ a ∈ as, decode (encode a) = some a) :
    (as.map encode).mapM decode = some as := by
  induction as with
  | nil => rfl
  | cons a as ih =>
    obtain ⟨ha, has⟩ := List.forall_mem_cons.mp h
    rw [List.map_cons, List.mapM_cons, ha, ih has]
    rfl

theorem list_array_map {as : List α} (h : ∀ a ∈ as, decode (encode a) = some a) :
    list decode (array (as.map encode)) = some as :=
  mapM_map h

end Decoding

theorem undoes_string : Undoes string? string :=
  ⟨fun _ => Json.noConfusion, fun _ => rfl⟩

theorem undoes_bool : Undoes bool? bool :=
  ⟨fun _ => Json.noConfusion, fun _ => rfl⟩

theorem optional_ofString? (s : Option String) :
    optional string? (some (ofString? s)) = some s := by
  rw [ofString?_eq]
  exact undoes_string.optional_getD s

/-- Printed on one line or on several, a value that can be read is decoded as before. -/
theorem bind_read? {α : Type} {v : Json} (h : IsReadable v) (decode : Json → Option α) :
    (read? v.text).bind decode = decode v ∧ (read? v.pretty).bind decode = decode v := by
  rw [read?_text h, read?_pretty h]
  exact ⟨rfl, rfl⟩

end DocSite.Json
