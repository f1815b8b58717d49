import BoundSql.Proofs.ConditionPlaces
import BoundSql.Proofs.ShorterTexts
import BoundSql.Proofs.WovenPredicates

/-! # Filters that stay

A select, an update or a delete has the keyword of its filter exactly when its calls
completed a predicate, and every one of these predicates stands behind the keyword
once, whatever is called later.  What completes nothing changes nothing. -/
set_option autoImplicit false
namespace BoundSql

/-- The second list lacks a closure of the first one in which nothing is completed,
perhaps inside other closures. -/
inductive DropsIdle : List ConditionCall → List ConditionCall → Prop
  | not {inner : List ConditionCall} (idle : completed inner = [])
    (before after : List ConditionCall) :
    DropsIdle (before ++ .not inner :: after) (before ++ after)
  | chained {inner : List ConditionCall} (connective : Connective) (idle : completed inner = [])
    (before after : List ConditionCall) :
    DropsIdle (before ++ .chained connective inner :: after) (before ++ after)
  | insideNot {inner less : List ConditionCall} (h : DropsIdle inner less)
    (before after : List ConditionCall) :
    DropsIdle (before ++ .not inner :: after) (before ++ .not less :: after)
  | insideChained {inner less : List ConditionCall} (connective : Connective)
    (h : DropsIdle inner less) (before after : List ConditionCall) :
    DropsIdle (before ++ .chained connective inner :: after)
      (before ++ .chained connective less :: after)

theorem DropsIdle.applyAll_eq {calls less : List ConditionCall} (h : DropsIdle calls less)
    (c : Condition) : ConditionCall.applyAll calls c = ConditionCall.applyAll less c := by
  induction h generalizing c with
  | @not inner idle before after =>
    have empty := (Condition.isEmpty_build_iff_completed inner).mpr idle
    have unchanged : ∀ d : Condition, (ConditionCall.not inner).apply d = d := fun d => if_pos empty
    rw [ConditionCall.applyAll_append, ConditionCall.applyAll, unchanged,
      ← ConditionCall.applyAll_append]
  | @chained inner connective idle before after =>
    have empty := (Condition.isEmpty_build_iff_completed inner).mpr idle
    have unchanged : ∀ d : Condition, (ConditionCall.chained connective inner).apply d = d :=
      fun d => if_pos empty
    rw [ConditionCall.applyAll_append, ConditionCall.applyAll, unchanged,
      ← ConditionCall.applyAll_append]
  | @insideNot inner less _ before after ih =>
    rw [ConditionCall.applyAll_append, ConditionCall.applyAll, ConditionCall.apply, ih,
      ConditionCall.applyAll_append, ConditionCall.applyAll, ConditionCall.apply]
  | @insideChained inner less connective _ before after ih =>
    rw [ConditionCall.applyAll_append, ConditionCall.applyAll, ConditionCall.apply, ih,
      ConditionCall.applyAll_append, ConditionCall.applyAll, ConditionCall.apply]

def ConditionCall.choosesMode : ConditionCall → Bool
  | .mode _ => true
  | _ => false

/-- Nothing is completed, and no mode is chosen at the top. -/
structure IsIdle (calls : List ConditionCall) : Prop where
  completes : completed calls = []
  modes : ∀ call ∈ calls, call.choosesMode = false

theorem foldl_chooseMode {calls : List ConditionCall}
    (h : ∀ call ∈ calls, call.choosesMode = false) (mode : Connective) :
    calls.foldl ConditionCall.chooseMode mode = mode := by
  induction calls with
  | nil => rfl
  | cons call rest ih =>
    have first := h call List.mem_cons_self
    have kept : call.chooseMode mode = mode := by
      cases call with
      | mode connective => simp [ConditionCall.choosesMode] at first
      | _ => rfl
    rw [List.foldl_cons, kept]
    exact ih fun other member => h other (List.mem_cons_of_mem _ member)

theorem IsIdle.applyAll_eq {calls : List ConditionCall} (h : IsIdle calls) (c : Condition) :
    ConditionCall.applyAll calls c = c := by
  obtain ⟨entries, links⟩ := contributions_idle h.completes
  rw [ConditionCall.applyAll_eq, entries, links, foldl_chooseMode h.modes, List.append_nil,
    List.append_nil]

/-- Pieces behind a blank, which is missing where none of them shows. -/
def behindBlank (pieces : List Piece) : List Piece :=
  if shows pieces then .text " " :: pieces else []

theorem SameText.behindBlank {first second : List Piece} (h : SameText first second) :
    SameText (behindBlank first) (behindBlank second) := by
  rw [BoundSql.behindBlank, BoundSql.behindBlank, h.shows]
  cases BoundSql.shows first with
  | false => exact .refl _
  | true => exact (SameText.refl [.text " "]).append h

theorem SameText.assemble_eq {first second : List Piece} (h : SameText first second) :
    assemble first = assemble second := by
  rw [assemble, assemble, h.text, h.values]

theorem following_filterClause {keyword : String} (word : keyword ≠ "")
    {calls : List ConditionCall} (busy : completed calls ≠ []) :
    following (filterClause keyword calls) =
      .text " " :: .text keyword :: behindBlank (layOut ((Condition.build calls).terms false)) := by
  have written : filterClause keyword calls =
      [.word keyword, (Condition.build calls).toTerm] := if_neg (by simpa using busy)
  rw [written, following_cons, if_pos (shows_word word), following_cons]
  exact congrArg (_ ++ ·) (List.append_nil _)

/-- The condition of a clause stands behind its keyword, with every predicate in it once. -/
theorem exists_woven_clause {keyword : String} (word : keyword ≠ "") {calls : List ConditionCall}
    (busy : completed calls ≠ []) :
    ∃ ordered woven, ordered.Perm (completed calls) ∧ Woven ordered woven ∧
      SameText (.text " " :: .text keyword :: behindBlank woven)
        (following (filterClause keyword calls)) := by
  obtain ⟨ordered, woven, order, text, shown⟩ := Condition.build_woven calls false
  refine ⟨ordered, woven, order, text, ?_⟩
  rw [following_filterClause word busy]
  exact (SameText.refl [.text " ", .text keyword]).append shown.behindBlank

theorem shows_following_filterClause {keyword : String} (word : keyword ≠ "")
    (calls : List ConditionCall) :
    shows (following (filterClause keyword calls)) = false ↔ completed calls = [] := by
  rw [shows_following, List.any_eq_false, ← conditionClause_build,
    ← Condition.isEmpty_build_iff_completed, ← conditionClause_hidden_iff word]
  simp only [Bool.not_eq_true]

theorem KeywordPlace.exists_pieces {b : Builder} (place : KeywordPlace b)
    (before after : List b.Call) :
    ∃ front back,
      compile (place.terms (place.build (b.besides place.clause (before ++ after)))) =
        assemble (front ++ back) ∧
      ∀ calls : List (List ConditionCall),
        compile (place.terms (place.build (before ++ calls.map place.call ++ after))) =
          assemble (front ++ following (filterClause place.keyword
            (before.flatMap place.conditions ++ calls.flatten ++ after.flatMap place.conditions))
              ++ back) := by
  obtain ⟨front, back, bare, whole⟩ := place.exists_terms before after
  have seen := shows_word place.opening_ne_empty
  refine ⟨(Term.word place.opening).pieces ++ following front, following back, ?_, ?_⟩
  · rw [bare, compile_eq_assemble, layOut_cons seen, following_append, List.append_assoc]
  · intro calls
    rw [whole, compile_eq_assemble, layOut_cons seen, following_append, following_append]
    simp only [List.append_assoc]

/-- A statement with room for calls about the condition of one of its keywords; the
other calls may be about it as well. -/
inductive FilterHost
  | selectWhere (before after : List SelectCall)
  | selectHaving (before after : List SelectCall)
  | updateWhere (before after : List UpdateCall)
  | deleteWhere (before after : List DeleteCall)

namespace FilterHost

def program (calls : List (List ConditionCall)) : FilterHost → Program
  | .selectWhere before after => .select (before ++ calls.map .filter ++ after)
  | .selectHaving before after => .select (before ++ calls.map .having ++ after)
  | .updateWhere before after => .update (before ++ calls.map .filter ++ after)
  | .deleteWhere before after => .delete (before ++ calls.map .filter ++ after)

def keyword : FilterHost → String
  | .selectHaving _ _ => "having"
  | _ => "where"

def earlier : FilterHost → List ConditionCall
  | .selectWhere before _ => before.flatMap SelectCall.filters
  | .selectHaving before _ => before.flatMap SelectCall.havings
  | .updateWhere before _ => before.flatMap UpdateCall.filters
  | .deleteWhere before _ => before.flatMap DeleteCall.filters

def later : FilterHost → List ConditionCall
  | .selectWhere _ after => after.flatMap SelectCall.filters
  | .selectHaving _ after => after.flatMap SelectCall.havings
  | .updateWhere _ after => after.flatMap UpdateCall.filters
  | .deleteWhere _ after => after.flatMap DeleteCall.filters

def conditions (host : FilterHost) (calls : List (List ConditionCall)) : List ConditionCall :=
  host.earlier ++ calls.flatten ++ host.later

def bare : FilterHost → Program
  | .selectWhere before after => .select (Builder.select.besides .filter (before ++ after))
  | .selectHaving before after => .select (Builder.select.besides .having (before ++ after))
  | .updateWhere before after => .update (Builder.update.besides .filter (before ++ after))
  | .deleteWhere before after => .delete (Builder.delete.besides .filter (before ++ after))

theorem keyword_ne_empty (host : FilterHost) : host.keyword ≠ "" := by
  cases host <;> simp [keyword]

theorem exists_pieces (host : FilterHost) :
    ∃ front back, host.bare.query = assemble (front ++ back) ∧ ∀ calls,
      (host.program calls).query =
        assemble (front ++ following (filterClause host.keyword (host.conditions calls))
          ++ back) := by
  cases host with
  | selectWhere before after => exact BoundSql.selectWhere.exists_pieces before after
  | selectHaving before after => exact BoundSql.selectHaving.exists_pieces before after
  | updateWhere before after => exact BoundSql.updateWhere.exists_pieces before after
  | deleteWhere before after => exact BoundSql.deleteWhere.exists_pieces before after

/-- Only the condition that is built counts. -/
theorem query_congr (host : FilterHost) {calls others : List (List ConditionCall)}
    (alike : ∀ c, ConditionCall.applyAll calls.flatten c =
      ConditionCall.applyAll others.flatten c) :
    (host.program calls).query = (host.program others).query := by
  obtain ⟨front, back, -, query⟩ := host.exists_pieces
  have built :
      Condition.build (host.conditions calls) = Condition.build (host.conditions others) := by
    simp only [Condition.build, conditions, ConditionCall.applyAll_append, alike]
  rw [query, query, ← conditionClause_build, ← conditionClause_build, built]

theorem completed_infix (host : FilterHost) {calls : List (List ConditionCall)}
    {call : List ConditionCall} (member : call ∈ calls) :
    completed call <:+: completed (host.conditions calls) := by
  obtain ⟨before, after, rfl⟩ := List.append_of_mem member
  refine ⟨completed (host.earlier ++ before.flatten), completed (after.flatten ++ host.later), ?_⟩
  simp [conditions, completed_append]

end FilterHost

/-- A condition is empty exactly when no predicate is completed in it at any depth, and
its text has each of them once.  So the keyword of a filter stands in a statement exactly
when some call completes a predicate for it, with all of these behind it and the statement
without its filter around it; none of them is lost by other calls, and calls and closures
that complete nothing leave the query alone. -/
theorem filters_never_vanish :
    (∀ calls, (Condition.build calls).isEmpty = false ↔
      ∃ call ∈ ConditionCall.leavesAll calls, call.completes = true ∧ call.isVoid = false) ∧
    (∀ calls, (completed calls).map some =
      ((ConditionCall.leavesAll calls).filter fun call => call.completes && !call.isVoid).map
        ConditionCall.predicate?) ∧
    (∀ calls nested, ∃ ordered woven, ordered.Perm (completed calls) ∧ Woven ordered woven ∧
      compile ((Condition.build calls).terms nested) = assemble woven) ∧
    ∀ host : FilterHost,
      (∃ front back : List Piece, host.bare.query = assemble (front ++ back) ∧ ∀ calls,
        ((host.program calls).query = host.bare.query ↔
          completed (host.conditions calls) = []) ∧
        (completed (host.conditions calls) ≠ [] → ∃ ordered woven,
          ordered.Perm (completed (host.conditions calls)) ∧ Woven ordered woven ∧
          (host.program calls).query = assemble
            (front ++ .text " " :: .text host.keyword :: behindBlank woven ++ back))) ∧
      (∀ calls, ∀ call ∈ calls, completed call <:+: completed (host.conditions calls)) ∧
      (∀ calls less, DropsIdle calls less →
        (host.program [calls]).query = (host.program [less]).query) ∧
      ∀ calls, IsIdle calls → (host.program [calls]).query = (host.program []).query := by
  refine ⟨?_, completed_map_some, ?_, fun host => ⟨?_, ?_, ?_, ?_⟩⟩
  · intro calls
    rw [← Bool.not_eq_true, Condition.isEmpty_build_iff_completed, completed_eq_nil_iff]
    simp
  · intro calls nested
    obtain ⟨ordered, woven, order, text, shown⟩ := Condition.build_woven calls nested
    refine ⟨ordered, woven, order, text, ?_⟩
    rw [compile_eq_assemble, shown.assemble_eq]
  · obtain ⟨front, back, bare, query⟩ := host.exists_pieces
    refine ⟨front, back, bare, fun calls => ⟨?_, fun busy => ?_⟩⟩
    · rw [query, bare, assemble_between_iff, shows_following_filterClause host.keyword_ne_empty]
    · obtain ⟨ordered, woven, order, text, shown⟩ :=
        exists_woven_clause host.keyword_ne_empty busy
      refine ⟨ordered, woven, order, text, ?_⟩
      rw [query]
      exact (((SameText.refl front).append shown).append (.refl back)).assemble_eq.symm
  · exact fun calls call member => host.completed_infix member
  · intro calls less drops
    refine host.query_congr fun c => ?_
    simp only [List.flatten_singleton]
    exact drops.applyAll_eq c
  · intro calls idle
    refine host.query_congr fun c => ?_
    simp only [List.flatten_singleton]
    exact idle.applyAll_eq c

def staleVisits : FilterHost :=
  .deleteWhere [.table (.word "visits"), .filter [.isNull (.word "guest")]]
    [.returning [.word "id"]]

def oldVisits : List ConditionCall :=
  [.mode .or, .compare (.word "age") .gt (.literal (.int4 3)),
    .not [.stepwise (.field (.word "room")) .unfinished, .mode .and],
    .chained .and
      [.not [.stepwise (.field (.word "id")) (.member (.custom "= any") (some (.values [])))]]]

theorem filters_never_vanish_staleVisits :
    staleVisits.bare.query.sql = "delete from visits returning id" ∧
      (staleVisits.program [oldVisits]).query.sql =
        "delete from visits where (guest is null or age > $1) returning id" ∧
      (staleVisits.program [oldVisits]).query = (staleVisits.program [oldVisits.take 3]).query ∧
      (staleVisits.program [oldVisits.drop 2]).query = (staleVisits.program []).query ∧
      (staleVisits.program []).query ≠ staleVisits.bare.query := by
  obtain ⟨⟨front, back, -, places⟩, -, drops, idle⟩ := filters_never_vanish.2.2.2 staleVisits
  have kept : (staleVisits.program []).query ≠ staleVisits.bare.query :=
    mt (places []).1.mp (List.cons_ne_nil _ _)
  refine ⟨by decide +kernel, by decide +kernel, ?_, ?_, kept⟩
  · exact drops oldVisits (oldVisits.take 3) (.chained .and rfl (oldVisits.take 3) [])
  · exact idle (oldVisits.drop 2) ⟨rfl, by decide⟩

end BoundSql
