import CloudStorage.Frontend
import CloudStorage.Group

/-!
# Connections before one storage

The connections of all browsers share the storage, and whole requests of different
connections follow one another. Each request for a user name sends a single command.
-/

namespace CloudStorage

/-- The storage server `p` at the other end of a connection's socket. It answers a text with
the replies to the commands of the text, which arrive in one piece. -/
def answerAt (depth : Nat) (p : Address) : (i : Action) → World → Option (i.Answer × World)
  | .connect _, w => some (true, w)
  | .storage _ text, w => serveLines (serveCommand depth p) (commandLines [] text) [] [] w
  | .mail _, w => some ((), w)

/-- Any number of connections, each with a session of its own. -/
def site {σ : Type} (b : Base64) (env : (i : Action) → σ → Option (i.Answer × σ)) :
    System ((Nat → Session) × σ) (Nat × Request) where
  init x := ∀ i, ∃ sid, x.1 i = { sid := sid }
  next x a := (((x.1 a.1).request b a.2).run env x.2).map (fun y =>
    (Function.update x.1 a.1 y.1.1, y.2))

end CloudStorage
