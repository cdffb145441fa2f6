import FilterCompiler.Proofs.Grammar

/-!
Which expressions are read. Reading goes from token to token and keeps a stack of open groups; the
grammar is about trees. Two arguments bring them together. What a reading holds spells the tokens
read so far, and stays so with every token, so that what is returned in the end is a tree of the
grammar. The other way round, every tree of the grammar leads the reading through its tokens, as
long as no more groups are open at once than may be.
-/

namespace FilterCompiler.FreeText

/-- The tokens that a term can begin with. -/
def Kind.startsTerm : Kind → Bool
  | .word _ | .phrase _ _ | .opening => true
  | _ => false

theorem Kind.modifier?_spelled {k : Kind} {m : Modifier} (h : k.modifier? = some m) :
    Modifier.Spelled (some m) [k] := by
  cases k <;> cases h <;> constructor

theorem Kind.conjunction?_spelled {k : Kind} {c : Conjunction} (h : k.conjunction? = some c) :
    Conjunction.Spelled (some c) [k] := by
  cases k <;> cases h <;> constructor

/-- What stands in a level before the next term: nothing or a level, and the link to the term. -/
inductive Lead : Level → Link → List Kind → Prop where
  | first {modifier : Option Modifier} {ms : List Kind} (hmodifier : Modifier.Spelled modifier ms) :
      Lead [] ⟨none, modifier⟩ ms
  | next {level : Level} {conjunction : Option Conjunction} {modifier : Option Modifier}
      {before cs ms : List Kind} (hlevel : Level.Spelled level before)
      (hconjunction : Conjunction.Spelled conjunction cs)
      (hmodifier : Modifier.Spelled modifier ms) :
      Lead level ⟨conjunction, modifier⟩ (before ++ (cs ++ ms))

namespace Lead

variable {level : Level} {link : Link} {lead : List Kind}

/-- A term completes the level. -/
theorem complete (h : Lead level link lead) {node : Node} {ks : List Kind}
    (hnode : node.Spelled ks) : Level.Spelled (level ++ [(link, node)]) (lead ++ ks) := by
  cases h with
  | first hmodifier => exact .first hmodifier hnode
  | next hlevel hconjunction hmodifier => exact .next hlevel hconjunction hmodifier hnode

/-- A modifier can be added where there is none. -/
theorem modify {conjunction : Option Conjunction} (h : Lead level ⟨conjunction, none⟩ lead)
    {modifier : Modifier} {k : Kind} (hmodifier : Modifier.Spelled (some modifier) [k]) :
    Lead level ⟨conjunction, some modifier⟩ (lead ++ [k]) := by
  cases h with
  | first hnone =>
      cases hnone
      exact .first hmodifier
  | next hlevel hconjunction hnone =>
      cases hnone
      simpa using Lead.next hlevel hconjunction hmodifier

theorem balanced (h : Lead level link lead) (opened : Nat) :
    lead.foldl Kind.openAfter opened = opened := by
  cases h with
  | first hmodifier => exact hmodifier.balanced opened
  | next hlevel hconjunction hmodifier =>
      simp [hlevel.balanced, hconjunction.balanced, hmodifier.balanced]

end Lead

/-- The open groups, innermost first, and everything written up to the last opening parenthesis. -/
inductive Enclosing : List OpenGroup → List Kind → Prop where
  | nothing : Enclosing [] []
  | group {groups : List OpenGroup} {outer : List Kind} {position : Nat} {link : Link}
      {before : Level} {lead : List Kind} (houter : Enclosing groups outer)
      (hlead : Lead before.reverse link lead) :
      Enclosing (⟨position, link, before⟩ :: groups) (outer ++ lead ++ [.opening])

theorem Enclosing.openAfter {groups : List OpenGroup} {outer : List Kind}
    (h : Enclosing groups outer) : outer.foldl Kind.openAfter 0 = groups.length := by
  induction h with
  | nothing => rfl
  | group houter hlead ih => simp [ih, hlead.balanced, Kind.openAfter]

namespace Reading

/-- The tokens that a reading has read, as far as it still holds them. -/
inductive HasRead : Reading → List Kind → Prop where
  | modifier {groups : List OpenGroup} {outer : List Kind} {level : Level}
      {conjunction : Option Conjunction} {lead : List Kind} (houter : Enclosing groups outer)
      (hlead : Lead level.reverse ⟨conjunction, none⟩ lead) :
      HasRead ⟨groups, level, .modifier conjunction⟩ (outer ++ lead)
  | term {groups : List OpenGroup} {outer : List Kind} {level : Level} {link : Link}
      {lead : List Kind} (houter : Enclosing groups outer) (hlead : Lead level.reverse link lead) :
      HasRead ⟨groups, level, .term link⟩ (outer ++ lead)
  | continuation {groups : List OpenGroup} {outer : List Kind} {level : Level} {ks : List Kind}
      (houter : Enclosing groups outer) (hlevel : Level.Spelled level.reverse ks) :
      HasRead ⟨groups, level, .continuation⟩ (outer ++ ks)
  | boost {groups : List OpenGroup} {outer : List Kind} {level group : Level} {link : Link}
      {lead ks : List Kind} (houter : Enclosing groups outer) (hlead : Lead level.reverse link lead)
      (hgroup : Level.Spelled group ks) :
      HasRead ⟨groups, level, .boost link group⟩ (outer ++ (lead ++ (.opening :: ks ++ [.closing])))

variable {r r' : Reading} {outer lead ks : List Kind} {t : Token}

theorem hasRead_begin {groups : List OpenGroup} (houter : Enclosing groups outer) :
    HasRead ⟨groups, [], .modifier none⟩ outer := by
  have hread : HasRead ⟨groups, [], .modifier none⟩ (outer ++ []) := .modifier houter (.first .none)
  rwa [List.append_nil] at hread

theorem add_hasRead (houter : Enclosing r.groups outer) {link : Link}
    (hlead : Lead r.level.reverse link lead) {node : Node} (hnode : node.Spelled ks) :
    (r.add link node).HasRead (outer ++ (lead ++ ks)) := by
  apply HasRead.continuation houter
  rw [List.reverse_cons]
  exact hlead.complete hnode

theorem term_hasRead (houter : Enclosing r.groups outer) {link : Link}
    (hlead : Lead r.level.reverse link lead) (h : r.term link t = .ok r') :
    r'.HasRead (outer ++ lead ++ [t.kind]) := by
  unfold term at h
  split at h
  case h_1 hkind =>
      split at h
      · cases h
      · obtain rfl := Except.ok.inj h
        rw [hkind]
        exact hasRead_begin (.group houter hlead)
  case h_2 text hkind =>
      obtain ⟨w, hword, rfl⟩ := map_eq_ok_iff.mp h
      rw [hkind, List.append_assoc]
      exact add_hasRead houter hlead (.word ((Word.read_eq_ok_iff ..).mp hword))
  case h_3 text suffix hkind =>
      obtain ⟨q, hquote, rfl⟩ := map_eq_ok_iff.mp h
      rw [hkind, List.append_assoc]
      exact add_hasRead houter hlead (.quote ((Quote.read_eq_ok_iff ..).mp hquote))
  case h_4 => cases h
  case h_5 => cases h

theorem modifier_hasRead (houter : Enclosing r.groups outer) {conjunction : Option Conjunction}
    (hlead : Lead r.level.reverse ⟨conjunction, none⟩ lead)
    (h : r.modifier conjunction t = .ok r') : r'.HasRead (outer ++ lead ++ [t.kind]) := by
  unfold modifier at h
  split at h
  · rename_i m hmodifier
    obtain rfl := Except.ok.inj h
    rw [List.append_assoc]
    exact .term houter (hlead.modify (Kind.modifier?_spelled hmodifier))
  · exact term_hasRead houter hlead h

theorem continuation_hasRead (houter : Enclosing r.groups outer)
    (hlevel : Level.Spelled r.level.reverse ks) (h : r.continuation t = .ok r') :
    r'.HasRead (outer ++ ks ++ [t.kind]) := by
  unfold continuation at h
  split at h
  · cases h
  · rename_i g groups hkind hgroups
    obtain rfl := Except.ok.inj h
    rw [hgroups] at houter
    cases houter with
    | group houter hlead =>
        rw [hkind]
        simpa using HasRead.boost houter hlead hlevel
  · split at h
    · rename_i c hconjunction
      obtain rfl := Except.ok.inj h
      have hlead : Lead r.level.reverse ⟨some c, none⟩ (ks ++ ([t.kind] ++ [])) :=
        .next hlevel (Kind.conjunction?_spelled hconjunction) .none
      simpa using HasRead.modifier houter hlead
    · have hlead : Lead r.level.reverse ⟨none, none⟩ (ks ++ ([] ++ [])) :=
        .next hlevel .none .none
      simpa using modifier_hasRead houter hlead h

/-- What has been read is kept with every token. -/
theorem HasRead.step (hread : r.HasRead ks) (h : r.step t = .ok r') :
    r'.HasRead (ks ++ [t.kind]) := by
  cases hread with
  | modifier houter hlead => exact modifier_hasRead houter hlead h
  | term houter hlead => exact term_hasRead houter hlead h
  | continuation houter hlevel => exact continuation_hasRead houter hlevel h
  | boost houter hlead hgroup =>
      simp only [Reading.step] at h
      split at h
      · rename_i raw hkind
        obtain ⟨b, hboost, rfl⟩ := map_eq_ok_iff.mp h
        rw [hkind]
        have hnode := Node.Spelled.boosted hgroup ((readBoost_eq_ok_iff ..).mp hboost)
        simpa using add_hasRead houter hlead hnode
      · -- No boost follows: the group is complete, and the token goes on with the level around it.
        have hlevel := hlead.complete (.group hgroup)
        rw [← List.reverse_cons] at hlevel
        exact continuation_hasRead houter hlevel h

theorem HasRead.openAfter (hread : r.HasRead ks) :
    ks.foldl Kind.openAfter 0 = r.groups.length := by
  cases hread with
  | modifier houter hlead | term houter hlead => simp [houter.openAfter, hlead.balanced]
  | continuation houter hlevel => simp [houter.openAfter, hlevel.balanced]
  | boost houter hlead hgroup =>
      simp [houter.openAfter, hlead.balanced, hgroup.balanced, Kind.openAfter]

/-- The reading once a group that has been closed is known to have no boost. -/
def settled (r : Reading) : Reading :=
  match r.expected with
  | .boost link group => r.add link (.group group none)
  | _ => r

/-- The link of a term that comes next. -/
def awaited (r : Reading) : Link :=
  match r.expected with
  | .modifier conjunction => ⟨conjunction, none⟩
  | .term link => link
  | .continuation | .boost _ _ => ⟨none, none⟩

@[simp] theorem settled_groups (r : Reading) : r.settled.groups = r.groups := by
  unfold settled
  split <;> rfl

/-- A term may come at any time. -/
theorem step_eq_term (r : Reading) (ht : t.kind.startsTerm = true) :
    r.step t = r.settled.term r.awaited t := by
  obtain ⟨groups, level, expected⟩ := r
  obtain ⟨kind, start, stop⟩ := t
  cases kind with
  | word text | phrase text suffix | opening => cases expected <;> rfl
  | _ => cases ht

/-- A group is opened only where there is room for one more. -/
theorem lt_maxDepth_of_step (h : r.step t = .ok r') (hkind : t.kind = .opening) :
    r.groups.length < maxDepth := by
  have hstarts : t.kind.startsTerm = true := by rw [hkind]; rfl
  rw [step_eq_term r hstarts] at h
  simp only [term, hkind, settled_groups] at h
  split at h
  · cases h
  · omega

/-- With every token that is read, what has been read is kept and the groups stay within bounds. -/
theorem HasRead.run {ts : List Token} (hread : r.HasRead ks) (hnesting : nesting ks ≤ maxDepth)
    (h : ts.foldlM Reading.step r = .ok r') :
    r'.HasRead (ks ++ ts.map Token.kind) ∧ nesting (ks ++ ts.map Token.kind) ≤ maxDepth := by
  induction ts generalizing r ks with
  | nil =>
      obtain rfl := Except.ok.inj h
      simpa using ⟨hread, hnesting⟩
  | cons t ts ih =>
      rw [List.foldlM_cons, bind_eq_ok_iff] at h
      obtain ⟨s, hstep, hrest⟩ := h
      have hnext : nesting (ks ++ [t.kind]) ≤ maxDepth := by
        rw [nesting_concat, hread.openAfter]
        apply Nat.max_le.mpr
        refine ⟨hnesting, ?_⟩
        -- Only an opening parenthesis adds to the open groups, and it
        -- is refused when they are full.
        by_cases hkind : t.kind = .opening
        · have hroom := lt_maxDepth_of_step hstep hkind
          rw [hkind]
          exact hroom
        · have hopened := foldl_openAfter_le_nestingFrom 0 ks
          rw [hread.openAfter] at hopened
          exact Nat.le_trans (Kind.openAfter_le hkind _) (Nat.le_trans hopened hnesting)
      simpa using ih (hread.step hstep) hnext hrest

/-- A reading that ends well has read a level. -/
theorem HasRead.finish {level : Level} (hread : r.HasRead ks) (h : r.finish = .ok level) :
    level.Spelled ks := by
  cases hread with
  | modifier | term => cases h
  | continuation houter hlevel =>
      cases houter with
      | nothing =>
          obtain rfl := Except.ok.inj h
          exact hlevel
      | group => cases h
  | boost houter hlead hgroup =>
      cases houter with
      | nothing =>
          obtain rfl := Except.ok.inj h
          have hlevel := hlead.complete (.group hgroup)
          rwa [← List.reverse_cons] at hlevel
      | group => cases h

end Reading

/-- From wherever a term may come, its tokens are read, if the open groups leave enough room. -/
def Node.IsRead (node : Node) (ks : List Kind) : Prop :=
  ∀ (ts : List Token) (r : Reading), ts.map Token.kind = ks →
    nestingFrom r.groups.length ks ≤ maxDepth →
    ∃ r', ts.foldlM Reading.step r = .ok r' ∧
      r'.settled = ⟨r.groups, (r.awaited, node) :: r.settled.level, .continuation⟩

/-- From the start of a group, the tokens of a level are read, if the
open groups leave enough room. -/
def Level.IsRead (level : Level) (ks : List Kind) : Prop :=
  ∀ (ts : List Token) (groups : List OpenGroup), ts.map Token.kind = ks →
    nestingFrom groups.length ks ≤ maxDepth →
    ∃ r, ts.foldlM Reading.step ⟨groups, [], .modifier none⟩ = .ok r ∧
      r.settled = ⟨groups, level.reverse, .continuation⟩

namespace Reading

variable {r r' s : Reading} {t : Token}

theorem run_append {ts us : List Token} (hfirst : ts.foldlM step r = .ok s)
    (hsecond : us.foldlM step s = .ok r') : (ts ++ us).foldlM step r = .ok r' := by
  rw [List.foldlM_append, hfirst]
  exact hsecond

theorem run_singleton (h : r.step t = .ok r') : [t].foldlM step r = .ok r' := by
  rw [List.foldlM_cons, h]
  rfl

/-- A parenthesis closes the innermost group after a term. -/
theorem step_closing {g : OpenGroup} {groups : List OpenGroup} {level : Level}
    (hafter : r.settled = ⟨g :: groups, level, .continuation⟩) (ht : t.kind = .closing) :
    r.step t = .ok ⟨groups, g.before, .boost g.link level.reverse⟩ := by
  obtain ⟨_, _, expected⟩ := r
  obtain ⟨kind, start, stop⟩ := t
  obtain rfl : kind = .closing := ht
  cases expected with
  | modifier | term => cases hafter
  | continuation | boost =>
      cases hafter
      rfl

theorem awaited_of_settled (hafter : r.settled.expected = .continuation) :
    r.awaited = ⟨none, none⟩ := by
  obtain ⟨groups, level, expected⟩ := r
  cases expected with
  | modifier | term => cases hafter
  | continuation | boost => rfl

/-- A modifier is read wherever none has been read yet. -/
theorem step_modifier (hterm : ∀ link, r.expected ≠ .term link) {m : Modifier}
    (ht : t.kind.modifier? = some m) :
    r.step t = .ok { r.settled with expected := .term ⟨r.awaited.conjunction, some m⟩ } := by
  obtain ⟨groups, level, expected⟩ := r
  obtain ⟨kind, start, stop⟩ := t
  cases kind with
  | plus | minus | bang | not =>
      cases ht
      cases expected with
      | term link => exact absurd rfl (hterm link)
      | modifier | continuation | boost => rfl
  | _ => cases ht

/-- A conjunction is read after a term. -/
theorem step_conjunction (hafter : r.settled.expected = .continuation) {c : Conjunction}
    (ht : t.kind.conjunction? = some c) :
    r.step t = .ok { r.settled with expected := .modifier (some c) } := by
  obtain ⟨groups, level, expected⟩ := r
  obtain ⟨kind, start, stop⟩ := t
  cases kind with
  | and | or =>
      cases ht
      cases expected with
      | modifier | term => cases hafter
      | continuation | boost => rfl
  | _ => cases ht

theorem run_modifier (hterm : ∀ link, r.expected ≠ .term link) {modifier : Option Modifier}
    {ms : List Kind} (hmodifier : Modifier.Spelled modifier ms) {ts : List Token}
    (hts : ts.map Token.kind = ms) :
    ∃ r', ts.foldlM step r = .ok r' ∧ r'.groups = r.groups ∧
      r'.settled.level = r.settled.level ∧ r'.awaited = ⟨r.awaited.conjunction, modifier⟩ := by
  cases hmodifier with
  | none =>
      obtain rfl := List.map_eq_nil_iff.mp hts
      refine ⟨r, rfl, rfl, rfl, ?_⟩
      obtain ⟨groups, level, expected⟩ := r
      cases expected with
      | term link => exact absurd rfl (hterm link)
      | modifier | continuation | boost => rfl
  | plus | minus | bang | not =>
      obtain ⟨t, rfl, hkind⟩ := List.map_eq_singleton_iff.mp hts
      have ht := congrArg Kind.modifier? hkind
      exact ⟨_, run_singleton (step_modifier hterm ht), settled_groups r, rfl, rfl⟩

theorem run_link (hafter : r.settled.expected = .continuation)
    {conjunction : Option Conjunction} {modifier : Option Modifier} {cs ms : List Kind}
    (hconjunction : Conjunction.Spelled conjunction cs) (hmodifier : Modifier.Spelled modifier ms)
    {ts : List Token} (hts : ts.map Token.kind = cs ++ ms) :
    ∃ r', ts.foldlM step r = .ok r' ∧ r'.groups = r.groups ∧
      r'.settled.level = r.settled.level ∧ r'.awaited = ⟨conjunction, modifier⟩ := by
  cases hconjunction with
  | none =>
      have hterm : ∀ link, r.expected ≠ .term link := by
        intro link hlink
        simp [settled, hlink] at hafter
      obtain ⟨r', hrun, hgroups, hlevel, hawaited⟩ := run_modifier hterm hmodifier hts
      rw [awaited_of_settled hafter] at hawaited
      exact ⟨r', hrun, hgroups, hlevel, hawaited⟩
  | and | or =>
      obtain ⟨t, rest, rfl, hkind, hrest⟩ := List.map_eq_cons_iff.mp hts
      have hstep := step_conjunction hafter (congrArg Kind.conjunction? hkind)
      obtain ⟨r', hrun, hgroups, hlevel, hawaited⟩ :=
        run_modifier (r := { r.settled with expected := .modifier (some _) }) nofun hmodifier hrest
      rw [settled_groups] at hgroups
      exact ⟨r', run_append (run_singleton hstep) hrun, hgroups, hlevel, hawaited⟩

theorem step_word {w : Word} {text : String} (hword : w.Spelled text.toList)
    (ht : t.kind = .word text) : r.step t = .ok (r.settled.add r.awaited (.word w)) := by
  have hread := (Word.read_eq_ok_iff t.start text.toList w).mpr hword
  rw [step_eq_term r (by rw [ht]; rfl), term, ht]
  exact congrArg (Except.map _) hread

theorem step_phrase {q : Quote} {text suffix : String} (hquote : q.Spelled text suffix.toList)
    (ht : t.kind = .phrase text suffix) :
    r.step t = .ok (r.settled.add r.awaited (.quote q)) := by
  have hread := (Quote.read_eq_ok_iff t.start text suffix.toList q).mpr hquote
  rw [step_eq_term r (by rw [ht]; rfl), term, ht]
  exact congrArg (Except.map _) hread

theorem step_opening (hroom : r.groups.length < maxDepth) (ht : t.kind = .opening) :
    r.step t = .ok ⟨⟨t.start, r.awaited, r.settled.level⟩ :: r.groups, [], .modifier none⟩ := by
  rw [step_eq_term r (by rw [ht]; rfl), term, ht, settled_groups]
  exact if_neg (Nat.not_le_of_lt hroom)

/-- A group is read up to its closing parenthesis, if its level is read. -/
theorem run_group {level : Level} {ks : List Kind} (hlevel : level.IsRead ks) {ts : List Token}
    (hts : ts.map Token.kind = .opening :: ks ++ [.closing])
    (hdepth : nestingFrom r.groups.length (.opening :: ks ++ [.closing]) ≤ maxDepth) :
    ts.foldlM step r = .ok ⟨r.groups, r.settled.level, .boost r.awaited level⟩ := by
  obtain ⟨front, back, rfl, hfront, hback⟩ := List.map_eq_append_iff.mp hts
  obtain ⟨t, inner, rfl, hopening, hinner⟩ := List.map_eq_cons_iff.mp hfront
  obtain ⟨u, rfl, hclosing⟩ := List.map_eq_singleton_iff.mp hback
  have hnested : nestingFrom (r.groups.length + 1) ks ≤ maxDepth := by
    rw [nestingFrom_append, nestingFrom] at hdepth
    exact (Nat.max_le.mp (Nat.max_le.mp hdepth).1).2
  have hroom : r.groups.length < maxDepth :=
    Nat.lt_of_lt_of_le (opened_le_nestingFrom _ ks) hnested
  obtain ⟨s, hrun, hsettled⟩ := hlevel inner (⟨t.start, r.awaited, r.settled.level⟩ :: r.groups)
    hinner hnested
  have hclose := step_closing hsettled hclosing
  rw [List.reverse_reverse] at hclose
  exact run_append (run_append (run_singleton (step_opening hroom hopening)) hrun)
    (run_singleton hclose)

end Reading

open Reading

/-- A term of one token is read if the step that reads it adds the term. -/
theorem Node.isRead_singleton {node : Node} {k : Kind}
    (hstep : ∀ (r : Reading) (t : Token),
      t.kind = k → r.step t = .ok (r.settled.add r.awaited node)) :
    node.IsRead [k] := by
  intro ts r hts _
  obtain ⟨t, rfl, hkind⟩ := List.map_eq_singleton_iff.mp hts
  refine ⟨r.settled.add r.awaited node, run_singleton (hstep r t hkind), ?_⟩
  rw [← settled_groups]
  rfl

theorem Level.IsRead.group {level : Level} {ks : List Kind} (hlevel : level.IsRead ks) :
    (Node.group level none).IsRead (.opening :: ks ++ [.closing]) := by
  intro ts r hts hdepth
  exact ⟨_, run_group hlevel hts hdepth, rfl⟩

theorem Level.IsRead.boosted {level : Level} {ks : List Kind} (hlevel : level.IsRead ks)
    {boost : Weight} {raw : String} (hboost : boost.IsBoost raw.toList) :
    (Node.group level (some boost)).IsRead (.opening :: ks ++ [.closing, .boost raw]) := by
  intro ts r hts hdepth
  have hsplit : Kind.opening :: ks ++ [.closing, .boost raw] =
      (.opening :: ks ++ [.closing]) ++ [.boost raw] := by simp
  rw [hsplit] at hts hdepth
  rw [nestingFrom_append] at hdepth
  obtain ⟨front, back, rfl, hfront, hback⟩ := List.map_eq_append_iff.mp hts
  obtain ⟨t, rfl, hkind⟩ := List.map_eq_singleton_iff.mp hback
  have hgroup := run_group hlevel hfront (Nat.max_le.mp hdepth).1
  have hread := (readBoost_eq_ok_iff t.start raw.toList boost).mpr hboost
  refine ⟨⟨r.groups, (r.awaited, .group level (some boost)) :: r.settled.level, .continuation⟩,
    run_append hgroup (run_singleton ?_), rfl⟩
  simp only [step, hkind, hread]
  rfl

theorem Node.IsRead.first {node : Node} {ms ks : List Kind} {modifier : Option Modifier}
    (hmodifier : Modifier.Spelled modifier ms) (hnode : node.IsRead ks) :
    Level.IsRead [(⟨none, modifier⟩, node)] (ms ++ ks) := by
  intro ts groups hts hdepth
  obtain ⟨front, back, rfl, hfront, hback⟩ := List.map_eq_append_iff.mp hts
  rw [nestingFrom_append, hmodifier.balanced] at hdepth
  obtain ⟨s, hlink, hgroups, hlevel, hawaited⟩ :=
    run_modifier (r := ⟨groups, [], .modifier none⟩) nofun hmodifier hfront
  obtain ⟨r, hrun, hsettled⟩ := hnode back s hback (hgroups ▸ (Nat.max_le.mp hdepth).2)
  refine ⟨r, run_append hlink hrun, ?_⟩
  rw [hsettled, hgroups, hlevel, hawaited]
  rfl

theorem Level.IsRead.next {level : Level} {node : Node} {before cs ms ks : List Kind}
    {conjunction : Option Conjunction} {modifier : Option Modifier}
    (hspelled : level.Spelled before) (hlevel : level.IsRead before)
    (hconjunction : Conjunction.Spelled conjunction cs)
    (hmodifier : Modifier.Spelled modifier ms) (hnode : node.IsRead ks) :
    Level.IsRead (level ++ [(⟨conjunction, modifier⟩, node)]) (before ++ (cs ++ ms) ++ ks) := by
  intro ts groups hts hdepth
  obtain ⟨front, back, rfl, hfront, hback⟩ := List.map_eq_append_iff.mp hts
  obtain ⟨start, link, rfl, hstart, hlink⟩ := List.map_eq_append_iff.mp hfront
  -- What stands before the term closes all it opens, so the term is read with the same groups open.
  rw [nestingFrom_append, nestingFrom_append, List.foldl_append, List.foldl_append,
    hspelled.balanced, hconjunction.balanced, hmodifier.balanced] at hdepth
  obtain ⟨hdepths, hdepthNode⟩ := Nat.max_le.mp hdepth
  obtain ⟨s, hrun, hsettled⟩ := hlevel start groups hstart (Nat.max_le.mp hdepths).1
  obtain ⟨u, hrunLink, hgroups, hheld, hawaited⟩ :=
    run_link (congrArg Reading.expected hsettled) hconjunction hmodifier hlink
  have hsame : s.groups = groups := by rw [← settled_groups, hsettled]
  rw [hsame] at hgroups
  obtain ⟨r, hrunNode, hdone⟩ := hnode back u hback (hgroups ▸ hdepthNode)
  refine ⟨r, run_append (run_append hrun hrunLink) hrunNode, ?_⟩
  rw [hdone, hgroups, hheld, hsettled, hawaited, List.reverse_append]
  rfl

mutual

theorem Node.Spelled.isRead {node : Node} {ks : List Kind} (h : node.Spelled ks) : node.IsRead ks :=
  match h with
  | .word hword => Node.isRead_singleton fun _ _ => step_word hword
  | .quote hquote => Node.isRead_singleton fun _ _ => step_phrase hquote
  | .group hlevel => hlevel.isRead.group
  | .boosted hlevel hboost => hlevel.isRead.boosted hboost

/-- The tokens of every level of the grammar are read. -/
theorem Level.Spelled.isRead {level : Level} {ks : List Kind} (h : level.Spelled ks) :
    level.IsRead ks :=
  match h with
  | .first hmodifier hnode => hnode.isRead.first hmodifier
  | .next hlevel hconjunction hmodifier hnode =>
      hlevel.isRead.next hlevel hconjunction hmodifier hnode.isRead

end

theorem Reading.finish_of_settled {r : Reading} {level : Level}
    (hsettled : r.settled = ⟨[], level, .continuation⟩) : r.finish = .ok level.reverse := by
  obtain ⟨groups, before, expected⟩ := r
  cases expected with
  | modifier | term => cases hsettled
  | continuation | boost =>
      cases hsettled
      rfl

/-- Tokens are read as a level exactly when they spell it and nowhere open too many groups. No
tokens at all are read as a level without items, which no tokens spell. -/
theorem Level.read_eq_ok_iff (ts : List Token) (level : Level) :
    Level.read ts = .ok level ↔
      (ts = [] ∧ level = []) ∨
        (level.Spelled (ts.map Token.kind) ∧ nesting (ts.map Token.kind) ≤ maxDepth) := by
  cases ts with
  | nil =>
      constructor
      · intro h
        obtain rfl := Except.ok.inj h
        exact Or.inl ⟨rfl, rfl⟩
      · rintro (⟨-, rfl⟩ | ⟨hlevel, -⟩)
        · rfl
        · exact absurd rfl hlevel.ne_nil
  | cons t ts =>
      simp only [Level.read, bind_eq_ok_iff, reduceCtorEq, false_and, false_or]
      constructor
      · rintro ⟨r, hrun, hfinish⟩
        obtain ⟨hread, hnesting⟩ := (hasRead_begin .nothing).run (Nat.zero_le _) hrun
        exact ⟨hread.finish hfinish, hnesting⟩
      · rintro ⟨hlevel, hnesting⟩
        obtain ⟨r, hrun, hsettled⟩ := hlevel.isRead (t :: ts) [] rfl hnesting
        have hfinish := finish_of_settled hsettled
        rw [List.reverse_reverse] at hfinish
        exact ⟨r, hrun, hfinish⟩

/-- Expressions written one after the other are an expression, however many there are. -/
theorem Level.read_flatten {parts : List (List Token)}
    (h : ∀ part ∈ parts, ∃ level, Level.read part = .ok level) :
    ∃ level, Level.read parts.flatten = .ok level := by
  induction parts with
  | nil => exact ⟨[], rfl⟩
  | cons part parts ih =>
      obtain ⟨⟨level, hpart⟩, hparts⟩ := List.forall_mem_cons.mp h
      obtain ⟨rest, hrest⟩ := ih hparts
      rw [List.flatten_cons]
      rcases (Level.read_eq_ok_iff part level).mp hpart with ⟨rfl, -⟩ | ⟨hlevel, hnesting⟩
      · exact ⟨rest, hrest⟩
      rcases (Level.read_eq_ok_iff _ rest).mp hrest with ⟨hempty, -⟩ | ⟨hrest, hrestNesting⟩
      · rw [hempty, List.append_nil]
        exact ⟨level, hpart⟩
      · refine ⟨level ++ rest, (Level.read_eq_ok_iff _ _).mpr (Or.inr ?_)⟩
        rw [List.map_append, hlevel.nesting_append]
        exact ⟨hlevel.append hrest, Nat.max_le.mpr ⟨hnesting, hrestNesting⟩⟩

/-- A text is an expression exactly when it has tokens and these are none at all or spell a level by
the grammar, with no more than 256 groups open at once. Nothing else about the groups matters: any
number of expressions can follow one another. -/
theorem Target.parse_accepts_exactly_grammar (t : Target) (text : String) :
    ((∃ q, t.parse text = .ok q) ↔
      ∃ ts, tokens text = .ok ts ∧
        (ts = [] ∨
          (∃ level, Level.Spelled level (ts.map Token.kind)) ∧ nesting (ts.map Token.kind) ≤ 256)) ∧
      ∀ parts : List (List Token), (∀ part ∈ parts, ∃ level, Level.read part = .ok level) →
        ∃ level, Level.read parts.flatten = .ok level := by
  refine ⟨?_, fun parts h => Level.read_flatten h⟩
  simp only [Target.parse, bind_eq_ok_iff]
  constructor
  · rintro ⟨q, ts, htokens, level, hread, -⟩
    refine ⟨ts, htokens, ?_⟩
    rcases (Level.read_eq_ok_iff ts level).mp hread with ⟨hempty, -⟩ | ⟨hlevel, hnesting⟩
    · exact Or.inl hempty
    · exact Or.inr ⟨⟨level, hlevel⟩, hnesting⟩
  · rintro ⟨ts, htokens, hgrammar⟩
    have hread : ∃ level, Level.read ts = .ok level := by
      rcases hgrammar with rfl | ⟨⟨level, hlevel⟩, hnesting⟩
      · exact ⟨[], rfl⟩
      · exact ⟨level, (Level.read_eq_ok_iff ts level).mpr (Or.inr ⟨hlevel, hnesting⟩)⟩
    obtain ⟨level, hread⟩ := hread
    exact ⟨_, ts, htokens, level, hread, rfl⟩

/-- Two groups, one after the other, and a word that starts with a star,
which only a similarity allows. -/
theorem Target.parse_accepts_exactly_grammar_for_two_groups :
    let first : List Token := [⟨.opening, 0, 1⟩, ⟨.word "cool~", 1, 6⟩, ⟨.closing, 6, 7⟩]
    let second : List Token := [⟨.opening, 7, 8⟩, ⟨.word "stuf*", 8, 13⟩, ⟨.closing, 13, 14⟩]
    (∃ level, Level.read first = .ok level) ∧ (∃ level, Level.read second = .ok level) ∧
      (∃ level, Level.read [first, second].flatten = .ok level) ∧
      (∃ level, Level.Spelled level [.word "*uff~"]) ∧
      ¬ ∃ level, Level.Spelled level [.word "*uff"] := by
  intro first second
  have hfirst : ∃ level, Level.read first = .ok level := ⟨_, rfl⟩
  have hsecond : ∃ level, Level.read second = .ok level := ⟨_, rfl⟩
  have hgrammar := parse_accepts_exactly_grammar ⟨"summary", .english⟩
  refine ⟨hfirst, hsecond, (hgrammar "").2 _ (by simpa using ⟨hfirst, hsecond⟩), ?_, ?_⟩
  · have haccepted : (Target.parse ⟨"summary", .english⟩ "*uff~").toOption.isSome = true := by
      decide +kernel
    have htokens : tokens "*uff~" = .ok [⟨.word "*uff~", 0, 5⟩] :=
      toOption_eq_some_iff.mp (by decide +kernel)
    obtain ⟨q, hq⟩ := Option.isSome_iff_exists.mp haccepted
    obtain ⟨ts, hts, hlevel⟩ := (hgrammar "*uff~").1.mp ⟨q, toOption_eq_some_iff.mp hq⟩
    obtain rfl := Except.ok.inj (htokens.symm.trans hts)
    exact (hlevel.resolve_left (List.cons_ne_nil _ _)).1
  · intro hlevel
    have hrefused : (Target.parse ⟨"summary", .english⟩ "*uff").toOption.isSome = false := by
      decide +kernel
    have htokens : tokens "*uff" = .ok [⟨.word "*uff", 0, 4⟩] :=
      toOption_eq_some_iff.mp (by decide +kernel)
    obtain ⟨q, hparse⟩ :=
      (hgrammar "*uff").1.mpr ⟨_, htokens, Or.inr ⟨hlevel, by decide⟩⟩
    rw [hparse] at hrefused
    cases hrefused

end FilterCompiler.FreeText
