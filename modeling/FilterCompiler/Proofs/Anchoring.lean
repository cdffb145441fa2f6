import FilterCompiler.Proofs.Matching

/-!
What anchoring is for. To the index a boolean that only excludes finds nothing, wherever it stands;
its author meant everything that it does not exclude. Anchoring makes the index see what was meant,
at every depth, and leaves alone what the index sees rightly: booleans with a clause to start from,
and the boolean without clauses, which is meant to find nothing.
-/

namespace FilterCompiler.Query

mutual

/-- What a query says of a document when it is read logically. Clauses that only exclude
say that none of their queries is true; no clauses at all are false; every other boolean
is read as the index reads it. -/
def meant (d : Document) : Query → Bool
  | .boolean clauses =>
    if (meantEach d clauses).isEmpty then false
    else if (meantEach d clauses).all (fun reading => reading.1 == .mustNot) then
      !(meantEach d clauses).any fun reading => reading.2
    else
      (meantEach d clauses).all (fun reading => reading.1.admits reading.2) &&
        (meantEach d clauses).any fun reading => reading.1.finds reading.2
  | .boosted inner _ => inner.meant d
  | .term t => d.term t
  | .range r => d.range r
  | .phrase p => d.phrase p
  | .stem t => d.stem t
  | .wildcard t => d.wildcard t
  | .fuzzy t similarity => d.fuzzy t similarity
  | .everything => true

def meantEach (d : Document) : List (Occurrence × Query) → List (Occurrence × Bool)
  | [] => []
  | (occurrence, q) :: rest => (occurrence, q.meant d) :: meantEach d rest

end

theorem meantEach_eq_map (d : Document) (clauses : Clauses) :
    meantEach d clauses = clauses.map fun clause => (clause.1, clause.2.meant d) := by
  induction clauses with
  | nil => rfl
  | cons clause rest ih => simp [meantEach, ih]

/-- Clauses that only exclude admit a document when none of them is true of it. -/
theorem all_admits_of_all_mustNot {readings : List (Occurrence × Bool)}
    (h : (readings.all fun reading => reading.1 == .mustNot) = true) :
    (readings.all fun reading => reading.1.admits reading.2) =
      !readings.any fun reading => reading.2 := by
  induction readings with
  | nil => rfl
  | cons reading rest ih =>
      obtain ⟨occurrence, answer⟩ := reading
      simp only [List.all_cons, Bool.and_eq_true, beq_iff_eq] at h
      obtain ⟨rfl, hrest⟩ := h
      rw [List.all_cons, List.any_cons, ih hrest, Occurrence.mustNot_admits, Bool.not_or]

/-- An anchored query matches exactly the documents of which the query was meant to be true. -/
theorem anchored_matches_meant (d : Document) (q : Query) : q.anchored.matchedBy d = q.meant d := by
  induction q with
  | boolean clauses ih =>
      have hreadings : (clauses.map fun clause => (clause.1, clause.2.anchored.matchedBy d)) =
          meantEach d clauses := by
        rw [meantEach_eq_map]
        apply List.map_congr_left
        intro clause hmember
        rw [ih clause hmember]
      have hmatched : (boolean clauses).anchored.matchedBy d =
          ((meantEach d clauses).all (fun reading => reading.1.admits reading.2) &&
            ((!(meantEach d clauses).isEmpty &&
              (meantEach d clauses).all fun reading => reading.1 == .mustNot) ||
              (meantEach d clauses).any fun reading => reading.1.finds reading.2)) := by
        rw [boolean_anchored_matchedBy, purelyNegative, ← hreadings]
        simp [List.all_map, List.any_map, Function.comp_def]
      rw [hmatched, meant]
      generalize meantEach d clauses = readings
      cases hempty : readings.isEmpty with
      | true => simp [List.isEmpty_iff.mp hempty]
      | false =>
          cases hnegative : readings.all fun reading => reading.1 == .mustNot with
          | true => simp [all_admits_of_all_mustNot hnegative]
          | false => simp
  | boosted inner boost ih => exact ih
  | _ => rfl

end FilterCompiler.Query
