import Statechart.Proofs.Machine.Inner

/-!
# What model code comes to

Depending on the answers to its requests, a script may come to several results; a call of it comes
to one of these, or it panics. A script that only makes requests of some kind, and does not panic,
comes to one of them for sure, and what survives these requests survives the call.
-/

namespace Statechart

variable {S E V L α : Type}

namespace Script

/-- Some answers to its requests lead the script to the result. -/
def May : Script S E V L α → α → Prop
  | .done result, other => result = other
  | .panic _, _ => False
  | .ask _ next, other => ∃ reply, (next reply).May other

/-- The script makes only requests of the given kind, and does not panic. -/
def Only (allowed : Request S E V L → Bool) : Script S E V L α → Prop
  | .done _ => True
  | .panic _ => False
  | .ask request next => allowed request = true ∧ ∀ reply, (next reply).Only allowed

end Script

namespace Machine

variable {machine : Machine S E V L} {holds : Machine S E V L → Prop}

/-- A call of model code comes to no other results than its script may come to. -/
theorem call_may (reentry : Reentry S E V L) (origin : Option (Message E)) (piece : Call S E V L)
    (script : Script S E V L α) (machine : Machine S E V L) :
    (call reentry origin piece script).Gives machine (fun result _ => script.May result)
      fun _ _ => True := by
  refine gives_call (fun left _ => ∀ result, left.May result → script.May result) ?_ ?_ ?_ script
    fun _ may => may
  · exact fun result _ reach => reach result rfl
  · exact fun _ _ _ => trivial
  · intro request next machine reach
    refine (Work.gives_anything _ machine).mono ?_ fun _ _ _ => trivial
    exact fun reply _ _ result may => reach result ⟨reply, may⟩

/-- A call of model code that only makes requests of some kind keeps what the answers to them
keep. -/
theorem call_only {allowed : Request S E V L → Bool} {reentry : Reentry S E V L}
    {origin : Option (Message E)} {piece : Call S E V L} {script : Script S E V L α}
    (only : script.Only allowed)
    (answers : ∀ request machine, allowed request = true → holds machine →
      (answer reentry request).Gives machine (fun _ => holds) fun _ _ => False)
    (begun : holds (machine.noted (.called piece (machine.scene origin)))) :
    (call reentry origin piece script).Gives machine (fun _ => holds) fun _ _ => False := by
  refine gives_call (fun left current => left.Only allowed ∧ holds current) ?_ ?_ ?_ script
    ⟨only, begun⟩
  · exact fun _ _ holding => holding.2
  · exact fun _ _ never => never.1.elim
  · rintro request next machine ⟨⟨fits, rest⟩, holding⟩
    exact (answers request machine fits holding).mono (fun reply _ kept => ⟨rest reply, kept⟩)
      fun _ _ never => never

end Machine

end Statechart
