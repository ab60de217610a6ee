import Mathlib.Data.List.TakeWhile
import Statechart.Proofs.Machine.Ledger

/-!
# Who hears what

Listeners may join at any time, even while a notice is told. `Concert` says how the tidings of a run
are made up: each notice that is issued is heard in turn by those who had joined before, and those
who join meanwhile are not told of it any more. From the shape alone it follows that a listener
hears all that is issued after it has joined, and nothing else, so that listeners differ only in
when they begin to hear.
-/

namespace Statechart

variable {S E V L : Type}

/-- What there is to tell about listeners: one joins, as the one at a position; a notice is issued;
one hears of it. -/
inductive Tiding (S E L : Type) where
  | joined (position : Nat) (listener : L)
  | issued (notice : Notice S E)
  | heard (position : Nat) (listener : L) (notice : Notice S E)

/-- What an entry tells about listeners. -/
def Entry.tiding? : Entry S E V L → Option (Tiding S E L)
  | .listening position listener => some (.joined position listener)
  | .notifying notice => some (.issued notice)
  | .called (.listener position listener notice) _ => some (.heard position listener notice)
  | _ => none

namespace Tiding

/-- The listener that joins, with its position. -/
def joined? : Tiding S E L → Option (L × Nat)
  | .joined position listener => some (listener, position)
  | _ => none

/-- The notice that is issued. -/
def issued? : Tiding S E L → Option (Notice S E)
  | .issued notice => some notice
  | _ => none

/-- The notice that is heard, and by whom. -/
def heard? : Tiding S E L → Option ((L × Nat) × Notice S E)
  | .heard position listener notice => some ((listener, position), notice)
  | _ => none

/-- The notice that the listener at the position hears. -/
def heardAt? (position : Nat) (tiding : Tiding S E L) : Option (Notice S E) :=
  tiding.heard?.bind fun (told, notice) => if told.2 = position then some notice else none

/-- Whether a notice is issued. -/
def isIssue (tiding : Tiding S E L) : Bool := tiding.issued?.isSome

/-- Whether it is the listener at the position that joins. -/
def joinsAt (position : Nat) (tiding : Tiding S E L) : Bool :=
  tiding.joined?.any fun joined => joined.2 = position

/-- Listeners join, the first one of them at the given position. -/
def joins (position : Nat) (listeners : List L) : List (Tiding S E L) :=
  (listeners.zipIdx position).map fun (listener, position) => .joined position listener

theorem joins_append (position : Nat) (listeners more : List L) :
    (joins position (listeners ++ more) : List (Tiding S E L))
      = joins position listeners ++ joins (position + listeners.length) more := by
  rw [joins, List.zipIdx_append, List.map_append, Nat.add_comm]
  rfl

theorem joined_joins (position : Nat) (listeners : List L) :
    (joins position listeners : List (Tiding S E L)).filterMap joined?
      = listeners.zipIdx position := by
  rw [joins, List.filterMap_map]
  exact List.filterMap_some

theorem heard_joins (position : Nat) (listeners : List L) :
    (joins position listeners : List (Tiding S E L)).filterMap heard? = [] := by
  rw [joins, List.filterMap_map]
  exact List.filterMap_eq_nil_iff.mpr fun _ _ => rfl

theorem unissued_joins (position : Nat) (listeners : List L) :
    ∀ tiding ∈ (joins position listeners : List (Tiding S E L)), tiding.isIssue = false := by
  intro tiding member
  obtain ⟨_, -, rfl⟩ := List.mem_map.mp member
  rfl

theorem filterMap_issued {tidings : List (Tiding S E L)}
    (unissued : ∀ tiding ∈ tidings, tiding.isIssue = false) : tidings.filterMap issued? = [] := by
  refine List.filterMap_eq_nil_iff.mpr fun tiding member => ?_
  simpa [isIssue] using unissued tiding member

/-- What the listener at a position hears, in this order. -/
def heardBy (position : Nat) (tidings : List (Tiding S E L)) : List (Notice S E) :=
  tidings.filterMap (heardAt? position)

/-- What is issued after the listener at a position has joined. -/
def issuedSince (position : Nat) (tidings : List (Tiding S E L)) : List (Notice S E) :=
  (tidings.dropWhile fun tiding => !tiding.joinsAt position).filterMap issued?

end Tiding

open Tiding

/-- A notice is told: to those who are to be told, one after the other, and meanwhile more listeners
join those who are known. -/
structure Round (told : List (L × Nat)) (notice : Notice S E) (known : Nat)
    (tidings : List (Tiding S E L)) (more : List L) : Prop where
  heard : tidings.filterMap heard? = told.map fun one => (one, notice)
  joined : tidings.filterMap joined? = more.zipIdx known
  unissued : ∀ tiding ∈ tidings, tiding.isIssue = false

/-- What goes on from when some listeners are known to when others are. -/
inductive Concert : List L → List (Tiding S E L) → List L → Prop where
  | silence (listeners : List L) : Concert listeners [] listeners
  | joined {before after : List L} {listener : L} {tidings : List (Tiding S E L)}
      (rest : Concert (before ++ [listener]) tidings after) :
    Concert before (.joined before.length listener :: tidings) after
  | told {before more after : List L} {notice : Notice S E} {round tidings : List (Tiding S E L)}
      (tells : Round before.zipIdx notice before.length round more)
      (rest : Concert (before ++ more) tidings after) :
    Concert before (.issued notice :: (round ++ tidings)) after

section Rounds

variable {told others : List (L × Nat)} {notice : Notice S E} {known : Nat}
variable {round tidings : List (Tiding S E L)} {more : List L}

theorem Round.nobody (notice : Notice S E) (known : Nat) :
    Round ([] : List (L × Nat)) notice known [] [] :=
  ⟨rfl, rfl, List.forall_mem_nil _⟩

/-- One listener hears of a notice, and those join whom it registers. -/
theorem Round.one (listener : L) (position : Nat) (notice : Notice S E) (known : Nat)
    (more : List L) :
    Round [(listener, position)] notice known
      (.heard position listener notice :: joins known more) more where
  heard := by
    rw [List.filterMap_cons_some (rfl : heard? _ = some ((listener, position), notice)),
      heard_joins]
    rfl
  joined := by
    rw [List.filterMap_cons_none rfl, joined_joins]
  unissued := List.forall_mem_cons.mpr ⟨rfl, unissued_joins known more⟩

theorem Round.append {further : List (Tiding S E L)} {others' : List L}
    (first : Round told notice known round more)
    (rest : Round others notice (known + more.length) further others') :
    Round (told ++ others) notice known (round ++ further) (more ++ others') where
  heard := by rw [List.filterMap_append, first.heard, rest.heard, List.map_append]
  joined := by
    rw [List.filterMap_append, first.joined, rest.joined, List.zipIdx_append, Nat.add_comm]
  unissued := List.forall_mem_append.mpr ⟨first.unissued, rest.unissued⟩

theorem Round.issued (tells : Round told notice known round more) :
    round.filterMap issued? = [] :=
  filterMap_issued tells.unissued

end Rounds

section Concerts

variable {before between after : List L} {tidings more : List (Tiding S E L)} {position : Nat}

theorem Concert.trans (first : Concert before tidings between)
    (second : Concert between more after) : Concert before (tidings ++ more) after := by
  induction first with
  | silence => exact second
  | joined _ ih => exact .joined (ih second)
  | told tells _ ih =>
    rw [List.cons_append, List.append_assoc]
    exact .told tells (ih second)

theorem concert_joins (before listeners : List L) :
    Concert before (joins before.length listeners : List (Tiding S E L)) (before ++ listeners) := by
  induction listeners generalizing before with
  | nil =>
    rw [List.append_nil]
    exact .silence before
  | cons listener rest ih =>
    have others := ih (before ++ [listener])
    rw [List.length_append, List.length_singleton, ← List.append_cons] at others
    exact .joined others

/-- The listeners that join are numbered on. -/
theorem Concert.numbered (concert : Concert before tidings after) :
    ∃ others, after = before ++ others
      ∧ tidings.filterMap joined? = others.zipIdx before.length := by
  induction concert with
  | silence => exact ⟨[], (List.append_nil _).symm, rfl⟩
  | @joined before after listener tidings _ ih =>
    obtain ⟨others, longer, numbered⟩ := ih
    refine ⟨listener :: others, by rw [longer, ← List.append_cons], ?_⟩
    rw [List.filterMap_cons_some (f := joined?) rfl, numbered, List.length_append]
    rfl
  | @told before more after notice round tidings tells _ ih =>
    obtain ⟨others, longer, numbered⟩ := ih
    refine ⟨more ++ others, by rw [longer, List.append_assoc], ?_⟩
    rw [List.filterMap_cons_none rfl, List.filterMap_append, tells.joined, numbered,
      List.zipIdx_append, List.length_append, Nat.add_comm]

/-- Of those who are numbered, one has the given number if there are so many. -/
theorem filterMap_zipIdx_at (notice : Notice S E) (position : Nat) (listeners : List L)
    (start : Nat) :
    ((listeners.zipIdx start).filterMap fun told =>
        if told.2 = position then some notice else none)
      = if start ≤ position ∧ position < start + listeners.length then [notice] else [] := by
  induction listeners generalizing start with
  | nil =>
    rw [if_neg (by simp only [List.length_nil]; omega)]
    rfl
  | cons listener rest ih =>
    rw [List.zipIdx_cons, List.filterMap_cons, ih, List.length_cons]
    by_cases here : start = position
    · simp only [if_pos here]
      rw [if_neg (by omega), if_pos (by omega)]
    · simp only [if_neg here]
      exact if_congr (by omega) rfl rfl

/-- In a round each of those who are known hears of the notice once, and nobody else does. -/
theorem Round.heardBy {notice : Notice S E} {round : List (Tiding S E L)} {more : List L}
    (tells : Round before.zipIdx notice before.length round more) (position : Nat) :
    heardBy position round = if position < before.length then [notice] else [] := by
  have views : Tiding.heardBy position round = (round.filterMap heard?).filterMap
      fun told => if told.1.2 = position then some told.2 else none := by
    rw [List.filterMap_filterMap]
    rfl
  rw [views, tells.heard, List.filterMap_map]
  refine (filterMap_zipIdx_at notice position before 0).trans (if_congr ?_ rfl rfl)
  omega

theorem heardBy_cons (position : Nat) {tiding : Tiding S E L} (silent : tiding.heard? = none)
    (tidings : List (Tiding S E L)) :
    heardBy position (tiding :: tidings) = heardBy position tidings :=
  List.filterMap_cons_none (by rw [heardAt?, silent]; rfl)

theorem heardBy_append (position : Nat) (tidings more : List (Tiding S E L)) :
    heardBy position (tidings ++ more) = heardBy position tidings ++ heardBy position more :=
  List.filterMap_append

/-- Those who are known hear all that is issued. -/
theorem Concert.heard_of_lt (concert : Concert before tidings after)
    (known : position < before.length) :
    heardBy position tidings = tidings.filterMap issued? := by
  induction concert with
  | silence => rfl
  | @joined before after listener tidings _ ih =>
    rw [heardBy_cons position rfl, List.filterMap_cons_none rfl]
    exact ih (by rw [List.length_append]; omega)
  | @told before more after notice round tidings tells _ ih =>
    rw [heardBy_cons position rfl, heardBy_append, tells.heardBy, if_pos known,
      List.filterMap_cons_some (f := issued?) rfl, List.filterMap_append, tells.issued,
      ih (by rw [List.length_append]; omega)]
    rfl

/-- A listener begins to hear once it has joined, be it among tidings of nothing that is issued or
later. -/
theorem issuedSince_append (position : Nat) (more : List (Tiding S E L))
    (unissued : ∀ tiding ∈ tidings, tiding.isIssue = false) :
    issuedSince position (tidings ++ more)
      = if position ∈ (tidings.filterMap joined?).map Prod.snd then more.filterMap issued?
        else issuedSince position more := by
  induction tidings with
  | nil => rfl
  | cons tiding rest ih =>
    obtain ⟨silent, others⟩ := List.forall_mem_cons.mp unissued
    cases tiding with
    | issued => contradiction
    | heard => exact ih others
    | joined place listener =>
      rw [List.filterMap_cons_some (f := joined?) rfl, List.map_cons, List.cons_append,
        issuedSince]
      by_cases here : place = position
      · rw [List.dropWhile_cons_of_neg (by simp [joinsAt, joined?, here]),
          List.filterMap_cons_none rfl, List.filterMap_append, filterMap_issued others,
          if_pos (by simp [here])]
        rfl
      · rw [List.dropWhile_cons_of_pos (by simp [joinsAt, joined?, here])]
        refine (ih others).trans (if_congr ?_ rfl rfl)
        rw [List.mem_cons, or_iff_right (Ne.symm here)]

/-- The law of a concert: whoever has yet to join hears all that is issued since then, and nothing
else. -/
theorem Concert.heard_of_le (concert : Concert before tidings after)
    (unknown : before.length ≤ position) :
    heardBy position tidings = issuedSince position tidings := by
  induction concert with
  | silence => rfl
  | @joined before after listener tidings rest ih =>
    have joins := issuedSince_append position tidings
      (List.forall_mem_singleton.mpr
        (rfl : (Tiding.joined before.length listener : Tiding S E L).isIssue = false))
    rw [List.singleton_append] at joins
    rw [heardBy_cons position rfl, joins]
    by_cases here : position = before.length
    · rw [if_pos (by simp [joined?, here])]
      exact rest.heard_of_lt (by simp [here])
    · rw [if_neg (by simp [joined?, here])]
      refine ih ?_
      rw [List.length_append, List.length_singleton]
      omega
  | @told before more after notice round tidings tells rest ih =>
    have since : issuedSince position (.issued notice :: (round ++ tidings))
        = issuedSince position (round ++ tidings) := rfl
    have among : position ∈ (round.filterMap joined?).map Prod.snd
        ↔ position < before.length + more.length := by
      rw [tells.joined, List.zipIdx_map_snd, List.mem_range'_1]
      exact and_iff_right unknown
    rw [heardBy_cons position rfl, heardBy_append, tells.heardBy, if_neg (by omega),
      List.nil_append, since, issuedSince_append position tidings tells.unissued]
    by_cases here : position < before.length + more.length
    · rw [if_pos (among.mpr here)]
      exact rest.heard_of_lt (by rwa [List.length_append])
    · rw [if_neg fun joins => here (among.mp joins)]
      refine ih ?_
      rw [List.length_append]
      omega

/-- A concert can be cut wherever a notice is issued. By induction on it: a round is never cut. -/
theorem Concert.cut {earlier rest : List (Tiding S E L)}
    (concert : Concert before (earlier ++ rest) after)
    (issues : ∀ tiding ∈ rest.head?, tiding.isIssue = true) :
    ∃ between, Concert before earlier between ∧ Concert between rest after := by
  generalize whole : earlier ++ rest = tidings at concert
  induction concert generalizing earlier with
  | silence listeners =>
    obtain ⟨rfl, rfl⟩ := List.append_eq_nil_iff.mp whole
    exact ⟨listeners, .silence listeners, .silence listeners⟩
  | @joined before after listener tidings later ih =>
    cases earlier with
    | nil =>
      cases whole
      exact absurd (issues _ rfl) (by simp [isIssue, issued?])
    | cons tiding earlier =>
      cases whole
      obtain ⟨between, first, second⟩ := ih rfl
      exact ⟨between, .joined first, second⟩
  | @told before more after notice round tidings tells later ih =>
    cases earlier with
    | nil =>
      cases whole
      exact ⟨before, .silence before, .told tells later⟩
    | cons tiding earlier =>
      obtain ⟨rfl, rest'⟩ := List.cons.inj whole
      -- what is left to cut begins behind the round, as nothing is issued within it
      have behind : ∃ others, earlier = round ++ others ∧ others ++ rest = tidings := by
        obtain ⟨others, rfl, same⟩ | ⟨others, rfl, same⟩ := List.append_eq_append_iff.mp rest'
        · cases others with
          | nil => exact ⟨[], by rw [List.append_nil, List.append_nil], same⟩
          | cons tiding others =>
            rw [same] at issues
            have issued := issues tiding rfl
            rw [tells.unissued tiding (List.mem_append_right _ List.mem_cons_self)] at issued
            contradiction
        · exact ⟨others, rfl, same.symm⟩
      obtain ⟨others, rfl, left⟩ := behind
      obtain ⟨between, first, second⟩ := ih left
      exact ⟨between, .told tells first, second⟩

/-- Nothing is heard until a notice is issued. -/
theorem Concert.unheard (concert : Concert before tidings after) :
    (tidings.takeWhile fun tiding => !tiding.isIssue).filterMap heard? = [] := by
  induction concert with
  | silence | told => rfl
  | joined _ ih => exact ih

end Concerts

/-- How those who listen agree. Each of them has joined once, at its position. What one hears that
has joined later is the last part of what one hears that has joined before: all that is issued after
the later one has joined, without what is still to be told by then of the notice before. And a
notice is heard by those who had joined when it was issued, in the order in which they had
joined. -/
structure Concordant (tidings : List (Tiding S E L)) (listeners : List L) : Prop where
  joined : tidings.filterMap joined? = listeners.zipIdx
  agree : ∀ first second, first < second → second < listeners.length →
    ∃ listener earlier meanwhile later,
      tidings = earlier ++ .joined second listener :: (meanwhile ++ later)
        ∧ (∀ tiding ∈ meanwhile, tiding.isIssue = false)
        ∧ (∀ tiding ∈ later.head?, tiding.isIssue = true)
        ∧ heardBy second tidings = later.filterMap issued?
        ∧ heardBy second tidings = heardBy first later
        ∧ heardBy first tidings
          = heardBy first (earlier ++ .joined second listener :: meanwhile)
            ++ heardBy second tidings
  inTurn : ∀ earlier notice later, tidings = earlier ++ .issued notice :: later →
    (later.takeWhile fun tiding => !tiding.isIssue).filterMap heard?
      = (earlier.filterMap joined?).map fun told => (told, notice)

section Concord

variable {listeners : List L} {tidings earlier later : List (Tiding S E L)} {position : Nat}

theorem Concert.zipIdx (concert : Concert [] tidings listeners) :
    tidings.filterMap joined? = listeners.zipIdx := by
  obtain ⟨others, rfl, numbered⟩ := concert.numbered
  exact numbered

/-- A listener has not joined before it joins. -/
theorem Concert.issuedSince_joined {listener : L}
    (concert : Concert [] (earlier ++ .joined position listener :: later) listeners) :
    issuedSince position (earlier ++ .joined position listener :: later)
      = later.filterMap issued? := by
  have distinct : ((earlier ++ .joined position listener :: later).filterMap joined?
      |>.map Prod.snd).Nodup := by
    rw [concert.zipIdx, List.zipIdx_map_snd]
    exact List.nodup_range'
  have before : ∀ tiding ∈ earlier, (!tiding.joinsAt position) = true := by
    intro tiding member
    rw [List.filterMap_append, List.filterMap_cons_some (f := joined?) rfl, List.map_append,
      List.map_cons] at distinct
    have unequal := (List.nodup_append.mp distinct).2.2
    cases tiding with
    | issued | heard => rfl
    | joined place other =>
      have among : place ∈ (earlier.filterMap joined?).map Prod.snd :=
        List.mem_map.mpr ⟨(other, place), List.mem_filterMap.mpr ⟨_, member, rfl⟩, rfl⟩
      have different := unequal place among position List.mem_cons_self
      simpa [joinsAt, joined?] using different
  rw [issuedSince, List.dropWhile_append_of_pos before,
    List.dropWhile_cons_of_neg (by simp [joinsAt, joined?]), List.filterMap_cons_none rfl]

/-- From a notice on, all is heard by those who had joined before, and by those before them. -/
theorem Concert.heard_later {last : Nat} {listener : L}
    (concert : Concert [] (earlier ++ later) listeners)
    (issues : ∀ tiding ∈ later.head?, tiding.isIssue = true)
    (joins : .joined last listener ∈ earlier) (early : position ≤ last) :
    heardBy position later = later.filterMap issued? := by
  obtain ⟨between, first, second⟩ := concert.cut issues
  have among : (listener, last) ∈ earlier.filterMap joined? :=
    List.mem_filterMap.mpr ⟨_, joins, rfl⟩
  rw [first.zipIdx] at among
  have known := List.snd_lt_of_mem_zipIdx among
  exact second.heard_of_lt (Nat.lt_of_le_of_lt early known)

theorem Concert.exists_joined (concert : Concert [] tidings listeners)
    (among : position < listeners.length) :
    ∃ listener earlier rest, tidings = earlier ++ .joined position listener :: rest := by
  have joins : (listeners[position], position) ∈ tidings.filterMap joined? := by
    rw [concert.zipIdx, List.mem_zipIdx_iff_getElem?]
    exact List.getElem?_eq_getElem among
  obtain ⟨tiding, member, joins⟩ := List.mem_filterMap.mp joins
  cases tiding with
  | issued | heard => contradiction
  | joined place listener =>
    cases joins
    obtain ⟨earlier, rest, split⟩ := List.mem_iff_append.mp member
    exact ⟨_, earlier, rest, split⟩

/-- Tidings can be cut before the first notice that is issued. -/
theorem exists_next_issue (tidings : List (Tiding S E L)) :
    ∃ meanwhile later, tidings = meanwhile ++ later
      ∧ (∀ tiding ∈ meanwhile, tiding.isIssue = false)
      ∧ ∀ tiding ∈ later.head?, tiding.isIssue = true := by
  refine ⟨tidings.takeWhile fun tiding => !tiding.isIssue,
    tidings.dropWhile fun tiding => !tiding.isIssue, List.takeWhile_append_dropWhile.symm,
    fun tiding member => ?_, fun tiding first => ?_⟩
  · simpa using List.mem_takeWhile_imp member
  · have issues := List.head?_dropWhile_not (fun tiding => !tiding.isIssue) tidings
    rw [Option.mem_def.mp first] at issues
    simpa using issues

/-- In a concert from the very beginning all listeners agree. -/
theorem Concert.concordant (concert : Concert [] tidings listeners) :
    Concordant tidings listeners where
  joined := concert.zipIdx
  agree first second lower among := by
    obtain ⟨listener, earlier, rest, rfl⟩ := concert.exists_joined among
    obtain ⟨meanwhile, later, rfl, quiet, issues⟩ := exists_next_issue rest
    have hears : heardBy second _ = issuedSince second _ :=
      concert.heard_of_le (Nat.zero_le second)
    rw [concert.issuedSince_joined, List.filterMap_append, filterMap_issued quiet,
      List.nil_append] at hears
    have regroup : earlier ++ .joined second listener :: (meanwhile ++ later)
        = (earlier ++ .joined second listener :: meanwhile) ++ later := by
      rw [List.append_assoc, List.cons_append]
    have whole := concert
    rw [regroup] at whole
    have hears' := whole.heard_later issues
      (List.mem_append_right _ List.mem_cons_self) (Nat.le_of_lt lower)
    refine ⟨listener, earlier, meanwhile, later, rfl, quiet, issues, hears,
      hears.trans hears'.symm, ?_⟩
    rw [hears, ← hears', ← heardBy_append, regroup]
  inTurn earlier notice later split := by
    subst split
    have issues : ∀ tiding ∈ (Tiding.issued notice :: later : List (Tiding S E L)).head?,
        tiding.isIssue = true := by
      rintro _ ⟨⟩
      rfl
    obtain ⟨between, first, second⟩ := concert.cut issues
    cases second with
    | @told _ more _ _ round rest tells further =>
      rw [List.takeWhile_append_of_pos fun tiding member => by
          rw [tells.unissued tiding member, Bool.not_false],
        List.filterMap_append, tells.heard, further.unheard, List.append_nil, first.zipIdx]

end Concord

end Statechart
