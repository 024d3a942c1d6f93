import ScriptManual.Proofs.Host.Preserves
import ScriptManual.Proofs.Path.Resolve
import ScriptManual.Text.Utf8

/-!
This module contains what is relied on about the files and the standard output of a host whose state
is a value: which of them an operation changes, and that a file is written as a whole or not at all.
-/

namespace ScriptManual

namespace Host

open ScriptManual.Path (Place)

/--
What is seen of the state of a host. Many paths can lead to one file, by links or otherwise, and so a
file has a place, which is the same for all of them.
-/
class View (σ : Type) where
  target : σ → Path → Place
  file? : σ → Place → Option (List UInt8)
  out : σ → Text

section

variable {σ : Type} [View σ]

/--
Whether a change leaves all files but those at some places as they are, and paths lead where they led
before.
-/
structure KeepsFiles (touched : Place → Prop) (before after : σ) : Prop where
  target_eq : ∀ p, View.target after p = View.target before p
  file?_eq : ∀ place, ¬touched place → View.file? after place = View.file? before place

theorem KeepsFiles.targets_eq {touched : Place → Prop} {s s' : σ} (h : KeepsFiles touched s s') :
    View.target s' = View.target s :=
  funext h.target_eq

theorem KeepsFiles.trans {touched : Place → Prop} {s s' s'' : σ} (h : KeepsFiles touched s s')
    (h' : KeepsFiles touched s' s'') : KeepsFiles touched s s'' where
  target_eq := fun p => (h'.target_eq p).trans (h.target_eq p)
  file?_eq := fun place ht => (h'.file?_eq place ht).trans (h.file?_eq place ht)

theorem KeepsFiles.mono {touched touched' : Place → Prop} {s s' : σ} (h : KeepsFiles touched s s')
    (hsub : ∀ place, touched place → touched' place) : KeepsFiles touched' s s' where
  target_eq := h.target_eq
  file?_eq := fun place ht => h.file?_eq place fun ht' => ht (hsub place ht')

structure Keeps (touched : Place → Prop) (before after : σ) : Prop
    extends KeepsFiles touched before after where
  out_eq : View.out after = View.out before

namespace Keeps

variable {touched touched' : Place → Prop} {s s' s'' : σ}

theorem refl (touched : Place → Prop) (s : σ) : Keeps touched s s :=
  ⟨⟨fun _ => rfl, fun _ _ => rfl⟩, rfl⟩

theorem trans (h : Keeps touched s s') (h' : Keeps touched s' s'') : Keeps touched s s'' :=
  ⟨h.toKeepsFiles.trans h'.toKeepsFiles, h'.out_eq.trans h.out_eq⟩

theorem mono (h : Keeps touched s s') (hsub : ∀ place, touched place → touched' place) :
    Keeps touched' s s' :=
  ⟨h.toKeepsFiles.mono hsub, h.out_eq⟩

end Keeps

end

/--
A host that changes no more than it is asked to. The file that a path leads to is the only one that an
operation on the path changes, and a failed attempt to write a file changes nothing.
-/
class Lawful (σ : Type) [View σ] [Host (StateM σ)] : Prop where
  keeps_resolve (p : Path) (s : σ) :
    Keeps (fun _ => False) s ((resolve p : StateM σ _).run s).2
  target_of_resolve {p q : Path} {s : σ} (h : ((resolve p : StateM σ _).run s).1 = .ok q) :
    q.IsResolved ∧ View.target s q = View.target s p
  keeps_readFile (p : Path) (s : σ) :
    Keeps (fun _ => False) s ((readFile p : StateM σ _).run s).2
  file?_of_readFile {p : Path} {s : σ} {bytes : List UInt8}
      (h : ((readFile p : StateM σ _).run s).1 = .ok bytes) :
    View.file? s (View.target s p) = some bytes
  keeps_writeFile (p : Path) (t : Except WideText.EncodeFault Text) (s : σ) :
    Keeps (· = View.target s p) s ((writeFile p t : StateM σ _).run s).2
  keeps_of_writeFile {p : Path} {t : Except WideText.EncodeFault Text} {s : σ} {e : OsError}
      (h : ((writeFile p t : StateM σ _).run s).1 = .error e) :
    Keeps (fun _ => False) s ((writeFile p t : StateM σ _).run s).2
  file?_of_writeFile {p : Path} {t : Except WideText.EncodeFault Text} {s : σ}
      (h : ((writeFile p t : StateM σ _).run s).1 = .ok ()) :
    ∃ text, t = .ok text ∧ View.file? ((writeFile p t : StateM σ _).run s).2 (View.target s p) =
      some (Text.Utf8.encode text)
  keeps_appendFile (p : Path) (t : Text) (s : σ) :
    Keeps (· = View.target s p) s ((appendFile p t : StateM σ _).run s).2
  keeps_makeDirectory (p : Path) (s : σ) :
    Keeps (fun _ => False) s ((makeDirectory p : StateM σ _).run s).2
  keeps_isDirectory (p : Path) (s : σ) :
    Keeps (fun _ => False) s ((isDirectory p : StateM σ _).run s).2
  out_putOut (t : Text) (s : σ) :
    View.out ((putOut t : StateM σ _).run s).2 = View.out s ++ t
  keepsFiles_putOut (t : Text) (s : σ) :
    KeepsFiles (fun _ => False) s ((putOut t : StateM σ _).run s).2
  keeps_putError (t : Text) (s : σ) :
    Keeps (fun _ => False) s ((putError t : StateM σ _).run s).2
  keeps_reportLoss (s : σ) :
    Keeps (fun _ => False) s ((reportLoss : StateM σ _).run s).2
  keeps_clock (s : σ) :
    Keeps (fun _ => False) s ((clock : StateM σ _).run s).2

section

variable {σ : Type} [View σ] {α β : Type} {lead : Path → Place} {touched : Place → Prop}

def KeepsAlong (lead : Path → Place) (touched : Place → Prop) (before after : σ) : Prop :=
  View.target before = lead → Keeps touched before after

theorem isFrame_keepsAlong (lead : Path → Place) (touched : Place → Prop) :
    IsFrame (KeepsAlong lead touched (σ := σ)) where
  refl s := fun _ => .refl touched s
  trans h h' := fun hl => (h hl).trans (h' ((h hl).targets_eq.trans hl))

/--
Whether a computation leaves the standard output and all files but some as they are, from every state
in which paths lead where `lead` says, and what it returns is as it should be.
-/
def Quiet (lead : Path → Place) (touched : Place → Prop) (x : StateM σ α) (post : α → Prop) : Prop :=
  Preserves (KeepsAlong lead touched) x post

theorem quiet_pure {a : α} {post : α → Prop} (h : post a) :
    Quiet lead touched (pure a : StateM σ α) post :=
  (isFrame_keepsAlong lead touched).pure h

theorem Quiet.bind {x : StateM σ α} {f : α → StateM σ β} {mid : α → Prop} {post : β → Prop}
    (hx : Quiet lead touched x mid) (hf : ∀ a, mid a → Quiet lead touched (f a) post) :
    Quiet lead touched (x >>= f) post :=
  (isFrame_keepsAlong lead touched).bind hx hf

theorem Quiet.of_keeps {x : StateM σ α} (h : ∀ s, Keeps (fun _ => False) s (x.run s).2) :
    Quiet lead touched x fun _ => True :=
  fun s => ⟨fun _ => (h s).mono fun _ hp => hp.elim, trivial⟩

variable [Host (StateM σ)] [Lawful σ]

theorem quiet_makeDirectories (p : Path) :
    Quiet lead touched (makeDirectories p : StateM σ _) fun _ => True := by
  apply (isFrame_keepsAlong lead touched).makeDirectoriesAt
  . exact fun _ _ => Quiet.of_keeps (Lawful.keeps_makeDirectory _)
  . exact fun path => Quiet.of_keeps (Lawful.keeps_isDirectory path)

theorem quiet_appendFile {p : Path} (h : touched (lead p)) (t : Text) :
    Quiet lead touched (appendFile p t : StateM σ _) fun _ => True := by
  intro s
  refine ⟨?_, trivial⟩
  rintro rfl
  apply (Lawful.keeps_appendFile p t s).mono
  rintro _ rfl
  exact h

end

end Host

end ScriptManual
