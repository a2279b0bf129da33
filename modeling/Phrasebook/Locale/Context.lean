import Phrasebook.Value.Basic

/-!
# Request contexts

A context holds the locale and the preferences of a request. Contexts are objects with an
identity, and at most one of them is bound. Binding another one gives a token that remembers
the binding from before; it can be brought back once.
-/

namespace Phrasebook.Locale

/-- The locale and the preferences of a request. A null locale is none. -/
structure RequestContext where
  locale : Value
  preferences : Value

/-- The context of a request that has said nothing yet. -/
def RequestContext.fresh : RequestContext := ⟨.null, .null⟩

/-- The identity of a context. -/
abbrev ContextId := Nat

/-- All contexts, and the one that is bound. -/
structure Contexts where
  objects : List RequestContext
  bound : Option ContextId

/-- What a binding remembers: the binding before it, and whether it was brought back. -/
structure Token where
  previous : Option ContextId
  used : Bool

/-- Which context to bind. -/
inductive Target
  | nothing
  | new (context : RequestContext)
  | existing (id : ContextId)

namespace Contexts

/-- No contexts. -/
def empty : Contexts := ⟨[], none⟩

/-- The context that is bound. -/
def current? (c : Contexts) : Option RequestContext :=
  c.bound.bind (c.objects[·]?)

/-- Bind a context. -/
def bind (c : Contexts) : Target → Contexts
  | .nothing => { c with bound := none }
  | .new context => ⟨c.objects ++ [context], some c.objects.length⟩
  | .existing id => { c with bound := some id }

/-- The token of the next binding. -/
def token (c : Contexts) : Token :=
  ⟨c.bound, false⟩

/-- Bring back a binding. -/
def restore (c : Contexts) (previous : Option ContextId) : Contexts :=
  { c with bound := previous }

/-- Write the locale and the preferences of the context that is bound. -/
def switch? (c : Contexts) (locale preferences : Value) : Option Contexts :=
  match c.bound with
  | none => none
  | some id => some { c with objects := c.objects.set id ⟨locale, preferences⟩ }

@[simp] theorem bind_nothing_bound (c : Contexts) : (c.bind .nothing).bound = none := rfl

@[simp] theorem restore_bound (c : Contexts) (previous : Option ContextId) :
    (c.restore previous).bound = previous := rfl

@[simp] theorem restore_objects (c : Contexts) (previous : Option ContextId) :
    (c.restore previous).objects = c.objects := rfl

theorem current?_bind_new (c : Contexts) (context : RequestContext) :
    (c.bind (.new context)).current? = some context := by
  simp [current?, bind]

end Contexts

end Phrasebook.Locale
