import FilterCompiler.Proofs.Comparison

/-!
Comparison of constants by their place on a scale. A comparison is answered by listing identifiers:
all of those on one side of each identifier that the literals stand for. On a scale without
repetitions the lists together hold exactly the identifiers whose place compares as the operator
says, whichever side is meant and however many lists there are; identifiers that are not on the
scale, and those with an empty side, leave no list behind.
-/

namespace FilterCompiler

namespace Value.Scale

variable {s : Scale}

/-- Both identifiers have a place on the scale, and the places compare as the operator says. -/
def Compares (s : Scale) (operator : Operator) (id other : String) : Prop :=
  ∃ i j : Nat, s.ids[i]? = some id ∧ s.ids[j]? = some other ∧ operator.Relates i j

/-- Without repetitions, an identifier is found at its place. -/
theorem idxOf?_eq_some_iff (hdistinct : s.ids.Nodup) (id : String) (i : Nat) :
    s.ids.idxOf? id = some i ↔ s.ids[i]? = some id := by
  rw [List.idxOf?_eq_some_iff, List.getElem?_eq_some_iff]
  constructor
  · rintro ⟨hi, hid, -⟩
    exact ⟨hi, hid⟩
  · rintro ⟨hi, hid⟩
    refine ⟨hi, hid, ?_⟩
    intro j hj hsame
    have hplace : j = i := (List.getElem_inj hdistinct).mp (hsame.trans hid.symm)
    omega

theorem mem_take_iff (s : Scale) (id : String) (n : Nat) :
    id ∈ s.ids.take n ↔ ∃ i, s.ids[i]? = some id ∧ i < n := by
  rw [List.mem_iff_getElem?]
  simp [List.getElem?_take, and_comm]

theorem mem_drop_iff (s : Scale) (id : String) (n : Nat) :
    id ∈ s.ids.drop n ↔ ∃ i, s.ids[i]? = some id ∧ n ≤ i := by
  rw [List.mem_iff_getElem?]
  constructor
  · rintro ⟨k, hk⟩
    rw [List.getElem?_drop] at hk
    exact ⟨n + k, hk, Nat.le_add_right n k⟩
  · rintro ⟨i, hi, hle⟩
    obtain ⟨k, rfl⟩ := Nat.exists_eq_add_of_le hle
    exact ⟨k, by rw [List.getElem?_drop, hi]⟩

/-- One side of an identifier, where a side holds what stands at the places related to its own. -/
theorem mem_side_iff (hdistinct : s.ids.Nodup) {related : Nat → Nat → Prop}
    {side : Nat → List String} {id : String}
    (hside : ∀ j, id ∈ side j ↔ ∃ i, s.ids[i]? = some id ∧ related i j) (other : String) :
    (∃ ids, (s.ids.idxOf? other).map side = some ids ∧ id ∈ ids) ↔
      ∃ i j : Nat, s.ids[i]? = some id ∧ s.ids[j]? = some other ∧ related i j := by
  simp only [Option.map_eq_some_iff, idxOf?_eq_some_iff hdistinct]
  constructor
  · rintro ⟨_, ⟨j, hother, rfl⟩, hmember⟩
    obtain ⟨i, hid, hplaces⟩ := (hside j).mp hmember
    exact ⟨i, j, hid, hother, hplaces⟩
  · rintro ⟨i, j, hid, hother, hplaces⟩
    exact ⟨side j, ⟨j, hother, rfl⟩, (hside j).mpr ⟨i, hid, hplaces⟩⟩

end Value.Scale

namespace Rule.Ranking

variable {r : Ranking} {field : String} {operator : Operator}

/-- The identifiers listed for one of the scale are those that compare with it. -/
theorem mem_compared?_iff (hdistinct : r.scale.ids.Nodup)
    (hrelational : operator.isRelational = true) (id other : String) :
    (∃ ids, r.compared? operator other = some ids ∧ id ∈ ids) ↔
      r.scale.Compares operator id other := by
  cases operator with
  | less => exact Value.Scale.mem_side_iff hdistinct (fun j => r.scale.mem_take_iff id j) other
  | lessOrEqual =>
      apply Value.Scale.mem_side_iff hdistinct (fun j => ?_) other
      refine (r.scale.mem_take_iff id (j + 1)).trans ?_
      simp only [Nat.lt_succ_iff, Operator.Relates]
  | greater =>
      exact Value.Scale.mem_side_iff hdistinct (fun j => r.scale.mem_drop_iff id (j + 1)) other
  | greaterOrEqual =>
      exact Value.Scale.mem_side_iff hdistinct (fun j => r.scale.mem_drop_iff id j) other
  | _ => cases hrelational

/-- The query for an identifier finds the documents whose own identifier compares with it. -/
theorem exists_query?_matchedBy_iff (hdistinct : r.scale.ids.Nodup)
    (hrelational : operator.isRelational = true) {d : Document} {id : String}
    (hd : d.Holds field id) (other : String) :
    (∃ q, r.query? field operator other = some q ∧ q.matchedBy d = true) ↔
      r.scale.Compares operator id other := by
  have hfound (ids : List String) :
      (Query.boolean (ids.map fun id => (.should, .ofTerm field id))).matchedBy d = true ↔
        id ∈ ids := by
    simp [Query.alternatives_matchedBy, hd.ofTerm_matchedBy]
  rw [← mem_compared?_iff hdistinct hrelational]
  constructor
  · rintro ⟨q, hq, hmatched⟩
    obtain ⟨ids, hlisted, -, rfl⟩ := (query?_eq_some_iff other q).mp hq
    exact ⟨ids, hlisted, (hfound ids).mp hmatched⟩
  · rintro ⟨ids, hlisted, hmember⟩
    have hsome : ids ≠ [] := List.ne_nil_of_mem hmember
    exact ⟨_, (query?_eq_some_iff other _).mpr ⟨ids, hlisted, hsome, rfl⟩, (hfound ids).mpr hmember⟩

/-- There is a query for an identifier exactly when some identifier compares with it. -/
theorem exists_query?_iff (hdistinct : r.scale.ids.Nodup)
    (hrelational : operator.isRelational = true) (other : String) :
    (∃ q, r.query? field operator other = some q) ↔ ∃ id, r.scale.Compares operator id other := by
  simp only [← mem_compared?_iff hdistinct hrelational]
  constructor
  · rintro ⟨q, hq⟩
    obtain ⟨ids, hlisted, hsome, -⟩ := (query?_eq_some_iff other q).mp hq
    obtain ⟨id, hmember⟩ := List.exists_mem_of_ne_nil ids hsome
    exact ⟨id, ids, hlisted, hmember⟩
  · rintro ⟨id, ids, hlisted, hmember⟩
    exact ⟨_, (query?_eq_some_iff other _).mpr ⟨ids, hlisted, List.ne_nil_of_mem hmember, rfl⟩⟩

theorem mem_queries_iff (literals : List Literal) (q : Query) :
    q ∈ r.queries field operator literals ↔
      ∃ l ∈ literals, l ≠ .empty ∧ ∃ id ∈ r.values l, r.query? field operator id = some q := by
  have hvalue (l : Literal) : (!l.isEmpty) = true ↔ l ≠ .empty := by
    cases l <;> simp [Literal.isEmpty]
  simp only [queries, List.mem_filterMap, List.mem_flatMap, List.mem_filter, hvalue]
  constructor
  · rintro ⟨id, ⟨l, ⟨hl, hsome⟩, hid⟩, hq⟩
    exact ⟨l, hl, hsome, id, hid, hq⟩
  · rintro ⟨l, hl, hsome, id, hid, hq⟩
    exact ⟨id, ⟨l, ⟨hl, hsome⟩, hid⟩, hq⟩

/-- However many queries there are, together they find what one of them finds. -/
theorem outcome_matchedBy_iff (hrelational : operator.isRelational = true) (literals : List Literal)
    (d : Document) :
    (r.outcome field operator (.single literals)).toQuery.matchedBy d = true ↔
      ∃ q ∈ r.queries field operator literals, q.matchedBy d = true := by
  rcases r.outcome_cases field hrelational literals with
    ⟨hqueries, hfound⟩ | ⟨q, hqueries, hfound⟩ | ⟨-, hfound⟩
  · rw [hqueries, hfound]
    simp [Outcome.toQuery, Outcome.nothing, Query.nothing, Query.boolean_matchedBy]
  · rw [hqueries, hfound]
    simp [Outcome.toQuery]
  · rw [hfound, ← List.any_eq_true, Bool.coe_iff_coe]
    exact Query.alternatives_matchedBy d (fun q => q) _

/-- There is nothing to find exactly when there are no queries, since none of them is empty. -/
theorem outcome_eq_nothing_iff (hrelational : operator.isRelational = true)
    (literals : List Literal) :
    r.outcome field operator (.single literals) = .nothing ↔
      r.queries field operator literals = [] := by
  rcases r.outcome_cases field hrelational literals with
    ⟨hqueries, hfound⟩ | ⟨q, hqueries, hfound⟩ | ⟨hqueries, hfound⟩
  · exact iff_of_true hfound hqueries
  · have hmember : q ∈ r.queries field operator literals := by simp [hqueries]
    obtain ⟨l, -, -, id, -, hq⟩ := (mem_queries_iff literals q).mp hmember
    obtain ⟨ids, -, hsome, rfl⟩ := (query?_eq_some_iff id q).mp hq
    simp [hfound, hqueries, Outcome.nothing, Query.nothing, hsome]
  · simp [hfound, hqueries, Outcome.nothing, Query.nothing]

/-- Some literal stands for an identifier that this one compares with. -/
def Wanted (r : Ranking) (operator : Operator) (literals : List Literal) (id : String) : Prop :=
  ∃ l ∈ literals, l ≠ .empty ∧ ∃ other ∈ r.values l, r.scale.Compares operator id other

/-- On a scale without repetitions, a document with a single identifier is found exactly when the
identifier is on the scale and its place compares, as the operator says, with the place of an
identifier that one of the literals stands for. If this is so for no identifier of the scale, the
answer is the outcome that finds nothing, and only then. The empty marker stands for no place. -/
theorem constants_compare_by_place (r : Ranking) (hdistinct : r.scale.ids.Nodup) (field : String)
    (operator : Operator) (hrelational : operator.isRelational = true) (literals : List Literal) :
    let found := r.outcome field operator (.single literals)
    (∀ (id : String) (d : Document), d.Holds field id →
      (found.toQuery.matchedBy d = true ↔ r.Wanted operator literals id)) ∧
      (found = .nothing ↔ ∀ id ∈ r.scale.ids, ¬r.Wanted operator literals id) := by
  intro found
  constructor
  · intro id d hd
    rw [outcome_matchedBy_iff hrelational]
    simp only [mem_queries_iff, Wanted, ← exists_query?_matchedBy_iff hdistinct hrelational hd]
    constructor
    · rintro ⟨q, ⟨l, hl, hvalue, other, hother, hq⟩, hmatched⟩
      exact ⟨l, hl, hvalue, other, hother, q, hq, hmatched⟩
    · rintro ⟨l, hl, hvalue, other, hother, q, hq, hmatched⟩
      exact ⟨q, ⟨l, hl, hvalue, other, hother, hq⟩, hmatched⟩
  · rw [outcome_eq_nothing_iff hrelational, List.eq_nil_iff_forall_not_mem]
    constructor
    · rintro hnone id - ⟨l, hl, hvalue, other, hother, hcompares⟩
      obtain ⟨q, hq⟩ := (exists_query?_iff hdistinct hrelational other).mpr ⟨id, hcompares⟩
      exact hnone q ((mem_queries_iff literals q).mpr ⟨l, hl, hvalue, other, hother, hq⟩)
    · intro hunwanted q hmember
      obtain ⟨l, hl, hvalue, other, hother, hq⟩ := (mem_queries_iff literals q).mp hmember
      obtain ⟨id, hcompares⟩ := (exists_query?_iff hdistinct hrelational other).mp ⟨q, hq⟩
      obtain ⟨i, j, hid, hplaces⟩ := hcompares
      exact hunwanted id (List.mem_of_getElem? hid)
        ⟨l, hl, hvalue, other, hother, i, j, hid, hplaces⟩

/-- Four constants from the lowest to the highest. The name `Major` is also that of
a constant without a place, and `Trivial` has nothing below it. The marker would
stand for the lowest constant. -/
theorem constants_compare_by_place_of_priority :
    let values : Literal → List String
      | .text name => if name = "Major" then ["3", "30"] else ["5"]
      | _ => ["5"]
    let r : Ranking := ⟨values, ⟨["5", "4", "3", "1"]⟩⟩
    let majors : List Literal := [.text "Major", .empty]
    let found := r.outcome "priority" .greaterOrEqual (.single majors)
    let holding (id : String) := Document.ofWord "priority" id
    r.scale.ids.Nodup ∧ (holding "1").Holds "priority" "1" ∧
      found.toQuery.matchedBy (holding "1") = true ∧
      found.toQuery.matchedBy (holding "30") = false ∧
      r.outcome "priority" .less (.single [.text "Trivial"]) = .nothing := by
  intro values r majors found holding
  have hdistinct : r.scale.ids.Nodup := by decide
  have hheld (id : String) : (holding id).Holds "priority" id := Document.ofWord_holds ..
  have hfound := (constants_compare_by_place r hdistinct "priority" .greaterOrEqual rfl majors).1
  refine ⟨hdistinct, hheld "1", (hfound "1" _ (hheld "1")).mpr ?_, ?_, ?_⟩
  · exact ⟨.text "Major", by simp [majors], nofun, "3", by simp [r, values], 3, 2, rfl, rfl,
      show 2 ≤ 3 by decide⟩
  · rw [Bool.eq_false_iff, ne_eq, hfound "30" _ (hheld "30")]
    rintro ⟨l, -, -, other, -, i, j, hplace, -⟩
    have := List.mem_of_getElem? hplace
    simp [r] at this
  · apply (constants_compare_by_place r hdistinct "priority" .less rfl _).2.mpr
    rintro id - ⟨l, hl, -, other, hother, i, j, -, hplace, hless⟩
    obtain rfl := List.mem_singleton.mp hl
    obtain rfl := List.mem_singleton.mp hother
    have hlowest : some 0 = some j := (Value.Scale.idxOf?_eq_some_iff hdistinct "5" j).mpr hplace
    obtain rfl := Option.some.inj hlowest
    exact Nat.not_lt_zero i hless

end Rule.Ranking

end FilterCompiler
