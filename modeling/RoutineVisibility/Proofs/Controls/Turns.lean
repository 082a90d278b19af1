import Mathlib.Data.Finset.Card
import Mathlib.Data.List.Perm.Subperm
import RoutineVisibility.Proofs.Controls.CyclePath

/-! The search turn by turn, without the list of fresh routines: its turns are bounded and its
parents lead back. -/
namespace RoutineVisibility

/-- Where a search stands: each routine that was pushed, with the one it was reached from, and those
that wait; the newest come first. -/
structure Frontier where
  parents : List (Text × Text)
  stack : List Text

namespace Frontier
open Search
variable {edges : Text → List Text} {start goal : Text}

def ofStart (start goal : Text) : Frontier :=
  ⟨[(start, goal)], [start]⟩

def pushed (f : Frontier) : List Text :=
  f.parents.map (·.1)

def push (source : Text) (f : Frontier) (next : Text) : Frontier :=
  if next ∈ f.pushed then f else ⟨(next, source) :: f.parents, next :: f.stack⟩

/-- The turns from a state on, with the routines that they take, up to the state in which the search
ends: no routine waits any more, or the goal was taken. -/
inductive Turns (edges : Text → List Text) (goal : Text) :
    Frontier → List Text → Frontier → Prop where
  | exhausted {parents : List (Text × Text)} : Turns edges goal ⟨parents, []⟩ [] ⟨parents, []⟩
  | found {parents : List (Text × Text)} {rest : List Text} :
    Turns edges goal ⟨parents, goal :: rest⟩ [goal] ⟨parents, rest⟩
  | turn {parents : List (Text × Text)} {r : Text} {rest taken : List Text} {last : Frontier}
    (other : r ≠ goal)
    (more : Turns edges goal ((edges r).foldl (push r) ⟨parents, rest⟩) taken last) :
    Turns edges goal ⟨parents, r :: rest⟩ (r :: taken) last

inductive Follows (parents : List (Text × Text)) (start : Text) : Text → List Text → Prop where
  | arrived : Follows parents start start [start]
  | back {r parent : Text} {way : List Text} (other : r ≠ start)
    (link : parents.lookup r = some parent) (more : Follows parents start parent way) :
    Follows parents start r (r :: way)

/-- There is one way to go on from every state. -/
theorem Turns.unique {f last last' : Frontier} {taken taken' : List Text}
    (turns : Turns edges goal f taken last) (turns' : Turns edges goal f taken' last') :
    taken' = taken ∧ last' = last := by
  induction turns generalizing taken' with
  | exhausted =>
    cases turns'
    exact ⟨rfl, rfl⟩
  | found =>
    cases turns' with
    | found => exact ⟨rfl, rfl⟩
    | turn other => exact absurd rfl other
  | turn other _ ih =>
    cases turns' with
    | found => exact absurd rfl other
    | turn _ more' =>
      obtain ⟨rfl, rfl⟩ := ih more'
      exact ⟨rfl, rfl⟩

/-- What holds of a search between two turns: the parents form a tree, apart from that of the start,
and what was pushed was taken or waits. -/
structure Kept (edges : Text → List Text) (start goal : Text) (taken : List Text) (f : Frontier) :
    Prop where
  tree : ∃ links, f.parents = links ++ [(start, goal)] ∧ Tree edges start links
  pushed : (taken ++ f.stack).Perm f.pushed

theorem pushed_links (links : List (Text × Text)) (stack : List Text) :
    pushed ⟨links ++ [(start, goal)], stack⟩ = reached start links :=
  List.map_append

theorem kept_ofStart (edges : Text → List Text) (start goal : Text) :
    Kept edges start goal [] (ofStart start goal) :=
  ⟨⟨[], rfl, .nil⟩, .refl _⟩

theorem Kept.exists_tree {taken : List Text} {f : Frontier} (kept : Kept edges start goal taken f) :
    ∃ links, f.pushed = reached start links ∧ Tree edges start links := by
  obtain ⟨links, parents, tree⟩ := kept.tree
  refine ⟨links, ?_, tree⟩
  rw [Frontier.pushed, parents]
  exact pushed_links links f.stack

theorem Kept.nodup_pushed {taken : List Text} {f : Frontier}
    (kept : Kept edges start goal taken f) : f.pushed.Nodup := by
  obtain ⟨links, names, tree⟩ := kept.exists_tree
  exact names ▸ tree.nodup

theorem Kept.push {taken : List Text} {f : Frontier} {r n : Text}
    (kept : Kept edges start goal taken f) (known : r ∈ f.pushed) (edge : n ∈ edges r) :
    Kept edges start goal taken (push r f n) := by
  unfold Frontier.push
  split
  · exact kept
  · next new =>
    obtain ⟨parents, stack⟩ := f
    obtain ⟨⟨links, rfl, tree⟩, pushed⟩ := kept
    rw [pushed_links] at known new
    exact ⟨⟨(n, r) :: links, rfl, .link tree known edge new⟩,
      List.perm_middle.trans (pushed.cons n)⟩

theorem pushed_push {f : Frontier} {r n a : Text} (known : a ∈ f.pushed) :
    a ∈ (push r f n).pushed := by
  unfold push
  split
  · exact known
  · exact List.mem_cons_of_mem n known

theorem Kept.pushAll {taken : List Text} {f : Frontier} {r : Text} {next : List Text}
    (kept : Kept edges start goal taken f) (known : r ∈ f.pushed)
    (subset : ∀ n ∈ next, n ∈ edges r) :
    Kept edges start goal taken (next.foldl (Frontier.push r) f) := by
  induction next generalizing f with
  | nil => exact kept
  | cons n next ih =>
    have edge : n ∈ edges r := subset n List.mem_cons_self
    exact ih (kept.push known edge) (pushed_push known) fun m mem =>
      subset m (List.mem_cons_of_mem n mem)

/-- A turn takes one routine, and keeps the rest. -/
theorem Kept.turn {taken rest : List Text} {parents : List (Text × Text)} {r : Text}
    (kept : Kept edges start goal taken ⟨parents, r :: rest⟩) :
    r ∈ Frontier.pushed ⟨parents, rest⟩ ∧
      Kept edges start goal (taken ++ [r]) ⟨parents, rest⟩ := by
  refine ⟨kept.pushed.subset (by simp), kept.tree, ?_⟩
  rw [List.append_assoc]
  exact kept.pushed

theorem Kept.turns {f last : Frontier} {before taken : List Text}
    (turns : Turns edges goal f taken last) (kept : Kept edges start goal before f) :
    Kept edges start goal (before ++ taken) last := by
  induction turns generalizing before with
  | exhausted =>
    rw [List.append_nil]
    exact kept
  | found => exact kept.turn.2
  | turn _ _ ih =>
    obtain ⟨known, popped⟩ := kept.turn
    have later := ih (popped.pushAll known fun n mem => mem)
    rwa [List.append_assoc] at later

/-- A newer link does not matter to a way that does not come to its routine. -/
theorem Follows.cons {parents : List (Text × Text)} {r child parent : Text} {way : List Text}
    (follows : Follows parents start r way) (apart : child ∉ way) :
    Follows ((child, parent) :: parents) start r way := by
  induction follows with
  | arrived => exact .arrived
  | @back r _ _ other link _ ih =>
    have ne : r ≠ child := fun same => apart (same ▸ List.mem_cons_self)
    refine .back other ?_ (ih fun mem => apart (List.mem_cons_of_mem r mem))
    rw [List.lookup_cons, beq_eq_false_iff_ne.2 ne]
    exact link

/-- The links of a tree lead from every routine in it back to the start, whatever else is there to
look up. -/
theorem follows_trail {links : List (Text × Text)} (more : List (Text × Text))
    (tree : Tree edges start links) {r : Text} (known : r ∈ reached start links) :
    Follows (links ++ more) start r (trail links r) := by
  induction tree generalizing r with
  | nil =>
    obtain rfl := mem_reached_nil.1 known
    exact .arrived
  | @link child parent older tree parentKnown edge new ih =>
    have apart {a : Text} (mem : a ∈ reached start older) : child ∉ trail older a :=
      fun inside => new ((tree.trail mem).2.2.2.2 child inside)
    rw [trail]
    split
    · next same =>
      subst same
      refine .back (fun root => new ?_) (by simp) ((ih parentKnown).cons (apart parentKnown))
      simp [root, reached]
    · next ne =>
      have older := (mem_reached_cons.1 known).resolve_left (Ne.symm ne)
      exact (ih older).cons (apart older)

def ofSearch (start goal : Text) (st : Search) : Frontier :=
  ⟨st.links ++ [(start, goal)], st.stack⟩

theorem ofSearch_reach {st : Search} {r n : Text}
    (fresh : ∀ a ∈ st.fresh, a ∉ reached start st.links)
    (covers : n ∈ st.fresh ∨ n ∈ reached start st.links) :
    ofSearch start goal (reach r st n) = push r (ofSearch start goal st) n := by
  have pushed : (ofSearch start goal st).pushed = reached start st.links :=
    pushed_links st.links st.stack
  unfold reach push
  rw [pushed]
  split
  · next new =>
    rw [if_neg (fresh n new)]
    rfl
  · next old => rw [if_pos (covers.resolve_left old)]

theorem ofSearch_reachAll {st : Search} {r : Text} {next : List Text}
    (fresh : ∀ a ∈ st.fresh, a ∉ reached start st.links)
    (covers : ∀ n ∈ next, n ∈ st.fresh ∨ n ∈ reached start st.links) :
    ofSearch start goal (reachAll r st next) = next.foldl (push r) (ofSearch start goal st) := by
  induction next generalizing st with
  | nil => rfl
  | cons n next ih =>
    have fresh' : ∀ a ∈ (reachAll r st [n]).fresh, a ∉ reached start (reachAll r st [n]).links :=
      fresh_reachAll fresh
    rw [reachAll_cons, List.foldl_cons, ← ofSearch_reach fresh (covers n List.mem_cons_self)]
    refine ih fresh' fun m mem => ?_
    rw [mem_fresh_reach, mem_reached_reach]
    have := covers m (List.mem_cons_of_mem n mem)
    tauto

/-- The turns come to an end, and find what the search with a list of fresh routines finds. -/
theorem exists_turns {st : Search} (inv : Inv edges start goal st) :
    ∃ taken last, Turns edges goal (ofSearch start goal st) taken last ∧
      (Search.run edges goal st = none → goal ∉ taken) ∧
      ∀ found, Search.run edges goal st = some found →
        goal ∈ taken ∧ last.parents = found.links ++ [(start, goal)] := by
  fun_induction Search.run edges goal st with
  | case1 st done =>
    refine ⟨[], ⟨st.links ++ [(start, goal)], []⟩, ?_, fun _ => List.not_mem_nil, by simp⟩
    rw [ofSearch, done]
    exact .exhausted
  | case2 st rest top =>
    refine ⟨[goal], ⟨st.links ++ [(start, goal)], rest⟩, ?_, by simp, ?_⟩
    · rw [ofSearch, top]
      exact .found
    · rintro found ⟨⟩
      exact ⟨List.mem_singleton_self goal, rfl⟩
  | case3 st r rest top other ih =>
    obtain ⟨taken, last, turns, missed, hit⟩ := ih (inv.step top other)
    have pushed : ofSearch start goal (reachAll r { st with stack := rest } (edges r)) =
        (edges r).foldl (push r) ⟨st.links ++ [(start, goal)], rest⟩ :=
      ofSearch_reachAll inv.fresh (inv.covers r)
    refine ⟨r :: taken, last, ?_, fun none => ?_, fun found run => ?_⟩
    · rw [ofSearch, top]
      rw [pushed] at turns
      exact .turn other turns
    · exact List.not_mem_cons_of_ne_of_not_mem (Ne.symm other) (missed none)
    · exact (hit found run).imp_left (List.mem_cons_of_mem r)

end Frontier

namespace Store
open Search Frontier
variable {F : Type → Type} [Holding F]

/-- How the search for the cycle that a dependency of the source on the target would close goes on
and ends. -/
structure Searches (s : Store F) (source target : Text) (taken : List Text) (last : Frontier) :
    Prop where
  turns : Turns s.controlTargets source (.ofStart target source) taken last
  /-- The search goes on in one way only. -/
  only : ∀ taken' last', Turns s.controlTargets source (.ofStart target source) taken' last' →
    taken' = taken ∧ last' = last
  /-- What was pushed was taken or still waits. -/
  pushed : (taken ++ last.stack).Perm last.pushed
  /-- No routine is pushed twice. -/
  once : last.pushed.Nodup
  bounded : taken.length ≤ s.allControlTargets.toFinset.card + 1
  missed : source ∉ taken → s.cyclePath? source target = none
  /-- The parents lead back from the source to the target, and to no routine twice. -/
  found : source ∈ taken → ∃ way, Follows last.parents target source way ∧ way.Nodup ∧
    s.cyclePath? source target = some (source :: way.reverse)

/-- What was taken was pushed, so it is the target or one of the targets of conditions, and none of
them is pushed twice. -/
theorem length_taken_le {s : Store F} {source target : Text} {taken : List Text} {f : Frontier}
    (kept : Kept s.controlTargets target source taken f) :
    taken.length ≤ s.allControlTargets.toFinset.card + 1 := by
  obtain ⟨links, names, tree⟩ := kept.exists_tree
  have within : f.pushed ⊆ target :: s.allControlTargets.toFinset.toList := by
    intro r mem
    rw [names] at mem
    rcases tree.mem_edges mem with rfl | ⟨a, edge⟩
    · exact List.mem_cons_self
    · refine List.mem_cons_of_mem target (Finset.mem_toList.2 (List.mem_toFinset.2 ?_))
      exact mem_allControlTargets (mem_controlTargets.1 edge)
  calc taken.length ≤ (taken ++ f.stack).length := by simp
    _ = f.pushed.length := kept.pushed.length_eq
    _ ≤ (target :: s.allControlTargets.toFinset.toList).length :=
      (kept.nodup_pushed.subperm within).length_le
    _ = s.allControlTargets.toFinset.card + 1 := by simp

/-- The search of the controls graph ends for every store, cyclic or not, after at most one turn
more than there are targets of conditions that control a routine, and the parents that it leaves
lead back if it comes to the source. -/
theorem exists_searches (s : Store F) (source target : Text) :
    ∃ taken last, s.Searches source target taken last := by
  have inv := s.inv_searchFrom target source
  obtain ⟨taken, last, turns, missed, hit⟩ := exists_turns inv
  have kept : Kept s.controlTargets target source taken last :=
    (kept_ofStart s.controlTargets target source).turns turns
  refine ⟨taken, last, turns, fun taken' last' => turns.unique, kept.pushed, kept.nodup_pushed,
    length_taken_le kept, fun never => ?_, fun comes => ?_⟩
  · unfold cyclePath?
    rw [Option.map_eq_none_iff]
    cases run : Search.run s.controlTargets source (s.searchFrom target) with
    | none => rfl
    | some found => exact absurd (hit found run).1 never
  · cases run : Search.run s.controlTargets source (s.searchFrom target) with
    | none => exact absurd comes (missed run)
    | some found =>
      obtain ⟨links, parents, tree⟩ := kept.tree
      have same : links = found.links :=
        List.append_cancel_right (parents.symm.trans (hit found run).2)
      have known : source ∈ reached target links := by
        rw [← pushed_links links last.stack, ← parents]
        exact kept.pushed.subset (List.mem_append_left last.stack comes)
      refine ⟨trail links source, parents ▸ follows_trail [(target, source)] tree known,
        (tree.trail known).2.2.2.1, ?_⟩
      unfold cyclePath?
      rw [run, same]
      rfl

end Store
end RoutineVisibility
