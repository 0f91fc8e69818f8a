import GridOutage.OutageList.Store

/-!
# Programs over the store (locked calls of `service` in ctg-contingency)

An operation on lists is a program whose only contact with the store is one store operation at a
time. Written so, it can be run against a store to its end, or one store operation at a time
between the operations of other programs.
-/
namespace GridOutage

inductive Program (α : Type) where
  | done (a : α)
  | get (id : Uuid) (next : Option OutageList → Program α)
  | insert (l : OutageList) (next : Except OutageList.Fault Unit → Program α)
  | replace (l : OutageList) (next : Option OutageList → Program α)
  | delete (id : Uuid) (next : Option OutageList → Program α)
  | list (next : List OutageList → Program α)

namespace Program

def bind {α β : Type} (p : Program α) (f : α → Program β) : Program β :=
  match p with
  | done a => f a
  | get id next => get id fun r => (next r).bind f
  | insert l next => insert l fun r => (next r).bind f
  | replace l next => replace l fun r => (next r).bind f
  | delete id next => delete id fun r => (next r).bind f
  | list next => list fun r => (next r).bind f

instance : Monad Program where
  pure := done
  bind := bind

/-- The program after its next store operation, and the store after it. -/
def step {α : Type} (p : Program α) (s : Store) : Program α × Store :=
  match p with
  | done a => (done a, s)
  | get id next => (next (s.get? id), s)
  | insert l next =>
    match s.insert l with
    | .ok after => (next (.ok ()), after)
    | .error e => (next (.error e), s)
  | replace l next => (next (s.replace l).1, (s.replace l).2)
  | delete id next => (next (s.delete id).1, (s.delete id).2)
  | list next => (next s.list, s)

/-- The result of a whole program, and the store after it. -/
def run {α : Type} : Program α → Store → α × Store
  | done a, s => (a, s)
  | get id next, s => (next (s.get? id)).run s
  | insert l next, s =>
    match s.insert l with
    | .ok after => (next (.ok ())).run after
    | .error e => (next (.error e)).run s
  | replace l next, s => (next (s.replace l).1).run (s.replace l).2
  | delete id next, s => (next (s.delete id).1).run (s.delete id).2
  | list next, s => (next s.list).run s

@[simp] theorem run_pure {α : Type} (a : α) (s : Store) : (pure a : Program α).run s = (a, s) := rfl

theorem run_bind {α β : Type} (p : Program α) (f : α → Program β) (s : Store) :
    (p >>= f).run s = (f (p.run s).1).run (p.run s).2 := by
  show (p.bind f).run s = _
  induction p generalizing s with
  | done a => rfl
  | get id next ih => exact ih _ s
  | insert l next ih =>
    simp only [bind, run]
    split
    · exact ih _ _
    · exact ih _ _
  | replace l next ih => exact ih _ _
  | delete id next ih => exact ih _ _
  | list next ih => exact ih _ s

end Program

/-- A program that may fail. -/
abbrev Operation := ExceptT Error Program

namespace Operation

def get (id : Uuid) : Operation (Option OutageList) := ExceptT.lift (.get id .done)

def insert (l : OutageList) : Operation Unit :=
  ExceptT.mk (.insert l fun r => .done (r.mapError .list))

def replace (l : OutageList) : Operation (Option OutageList) := ExceptT.lift (.replace l .done)

def delete (id : Uuid) : Operation (Option OutageList) := ExceptT.lift (.delete id .done)

def list : Operation (List OutageList) := ExceptT.lift (.list .done)

/-- The outcome of an operation and the store after it. -/
def run {α : Type} (op : Operation α) (s : Store) : Except Error α × Store :=
  Program.run (ExceptT.run op) s

end Operation

end GridOutage
