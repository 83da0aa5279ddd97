import IdentityForms.Proofs.Calendar.Scanning

/-! The three forms of a text that denotes a moment exclude each other: what one of them reads, the
others refuse, so it does not matter which is tried first. -/
namespace IdentityForms.Moment

/-- The readers of the three forms, in the order in which they are tried. -/
def readers : List (List Char → Option Moment) := [ofStamp?, ofDateAndTime?, ofDate?]

variable {text : List Char} {moment : Moment}

theorem ofText?_eq_findSome? (text : String) :
    ofText? text = readers.findSome? fun read => read text.toList := by
  simp only [ofText?, readers, List.findSome?_cons, List.findSome?_nil]
  cases ofStamp? text.toList with
  | some moment => rfl
  | none =>
    cases ofDateAndTime? text.toList with
    | some moment => rfl
    | none => cases ofDate? text.toList <;> rfl

/-- A stamp begins with a date and a time as the other forms have them, but goes on after both. -/
theorem exceeds_of_ofStamp? (h : ofStamp? text = some moment) :
    ∃ date mark clock time afterTime, looseDate? text = some (date, mark :: clock) ∧
      looseTime? clock = some (time, afterTime) ∧ afterTime ≠ [] := by
  obtain ⟨date, mark, clock, time, afterTime, nanos, zone, offset, -, hdate, htime, hfraction,
    hoffset, -⟩ := ofStamp?_eq_some.mp h
  refine ⟨date, mark, clock, time, afterTime, agrees_looseDate? _ _ hdate,
    agrees_looseTime? _ _ htime, ?_⟩
  rintro rfl
  cases hfraction
  cases hoffset

theorem ofDateAndTime?_of_ofStamp? (h : ofStamp? text = some moment) :
    ofDateAndTime? text = none := by
  obtain ⟨date, mark, clock, time, afterTime, hdate, htime, hne⟩ := exceeds_of_ofStamp? h
  rw [Option.eq_none_iff_forall_ne_some]
  intro other hother
  obtain ⟨date', clock', time', hdate', htime', -⟩ := ofDateAndTime?_eq_some.mp hother
  rw [hdate] at hdate'
  cases hdate'
  rw [htime] at htime'
  cases htime'
  exact hne rfl

theorem ofDate?_of_looseDate? {date : Date} {mark : Char} {clock : List Char}
    (h : looseDate? text = some (date, mark :: clock)) : ofDate? text = none := by
  rw [Option.eq_none_iff_forall_ne_some]
  intro other hother
  obtain ⟨date', hdate', -⟩ := ofDate?_eq_some.mp hother
  rw [h] at hdate'
  cases hdate'

theorem ofDate?_of_ofStamp? (h : ofStamp? text = some moment) : ofDate? text = none := by
  obtain ⟨date, mark, clock, time, afterTime, hdate, -⟩ := exceeds_of_ofStamp? h
  exact ofDate?_of_looseDate? hdate

theorem ofDate?_of_ofDateAndTime? (h : ofDateAndTime? text = some moment) :
    ofDate? text = none := by
  obtain ⟨date, clock, time, hdate, -⟩ := ofDateAndTime?_eq_some.mp h
  exact ofDate?_of_looseDate? hdate

theorem eq_of_perm_of_length_le_one {α : Type} {left right : List α} (h : left.Perm right)
    (hlength : right.length ≤ 1) : left = right := by
  match right with
  | [] => exact h.eq_nil
  | [a] => exact h.eq_singleton
  | _ :: _ :: _ => simp at hlength

theorem length_readings_le_one (text : List Char) :
    (readers.filterMap fun read => read text).length ≤ 1 := by
  unfold readers
  cases hstamp : ofStamp? text with
  | some moment =>
    simp [hstamp, ofDateAndTime?_of_ofStamp? hstamp, ofDate?_of_ofStamp? hstamp]
  | none =>
    cases hclock : ofDateAndTime? text with
    | some moment => simp [hstamp, hclock, ofDate?_of_ofDateAndTime? hclock]
    | none => cases hdate : ofDate? text <;> simp [hstamp, hclock, hdate]

theorem head?_of_mem_of_length_le_one {α : Type} {a : α} {list : List α} (h : a ∈ list)
    (hlength : list.length ≤ 1) : list.head? = some a := by
  match list with
  | [] => cases h
  | [b] => rw [List.mem_singleton.mp h, List.head?_cons]
  | _ :: _ :: _ => simp at hlength

/-- A text that one of the readers reads is read as that one has it. -/
theorem ofText?_of_mem {read : List Char → Option Moment} (hread : read ∈ readers) {text : String}
    (h : read text.toList = some moment) : ofText? text = some moment := by
  rw [ofText?_eq_findSome?, ← List.head?_filterMap]
  exact head?_of_mem_of_length_le_one (List.mem_filterMap.mpr ⟨read, hread, h⟩)
    (length_readings_le_one text.toList)

/-- No text has two readings, so every order of trying the readers finds the same one. -/
theorem one_reading (text : String) {order : List (List Char → Option Moment)}
    (horder : order.Perm readers) :
    (order.filterMap fun read => read text.toList).length ≤ 1 ∧
    (order.findSome? fun read => read text.toList) = ofText? text := by
  have hlength := length_readings_le_one text.toList
  have hreadings := eq_of_perm_of_length_le_one (horder.filterMap _) hlength
  rw [ofText?_eq_findSome?, ← List.head?_filterMap, ← List.head?_filterMap, hreadings]
  exact ⟨hlength, rfl⟩

/-- The local time is 05:29:60 of the first of March, the moment one of the leap day before. -/
theorem one_reading_stamp : [ofDate?, ofDateAndTime?, ofStamp?].Perm readers ∧
    ([ofDate?, ofDateAndTime?, ofStamp?].findSome?
      fun read => read "2024-03-01 05:29:60.5+05:30".toList) =
        some ⟨1709251199, 1500000000⟩ := by
  have horder : [ofDate?, ofDateAndTime?, ofStamp?].Perm readers := readers.reverse_perm
  refine ⟨horder, ?_⟩
  rw [(one_reading _ horder).2]
  decide +kernel

end IdentityForms.Moment
