import Mathlib.Data.List.Pairwise
import PromptCad.Proofs.Prompt.Unique

/-! The forms of the templates. Each of them can be read without looking back, and a line has one form at most. -/

namespace PromptCad.Prompt

open Grammar Unicode

def sharedUnitBoxForm : List Piece :=
  [.number, .gap, .word ["x"], .gap, .number, .gap, .word ["x"], .gap, .number, .gap, .unit, .blanks,
    .word ["box", "cube"]]

def boxByForm : List Piece :=
  [.word ["box"], .blanks, .number, .gap, .unit, .blanks, .word ["by"], .blanks, .number, .gap, .unit, .blanks,
    .word ["by"], .blanks, .number, .gap, .unit]

def cubeForm : List Piece := [.word ["cube"], .blanks, .number, .gap, .unit]

def lengthCubeForm : List Piece := [.number, .gap, .unit, .blanks, .word ["cube"]]

def heightForm : List Piece := [.word ["height"], .blanks, .number, .gap, .unitIfAny]

def cylinderForm : List Piece :=
  .word ["cylinder"] :: .blanks :: .word ["radius"] :: .blanks :: .number :: .gap :: .unitIfAny :: .blanks :: heightForm

def sphereForm : List Piece := [.word ["sphere"], .blanks, .word ["radius"], .blanks, .number, .gap, .unitIfAny]

theorem forms_eq : Template.forms =
    [(.sharedUnitBox, sharedUnitBoxForm), (.boxBy, boxByForm), (.cube, cubeForm), (.cube, lengthCubeForm),
      (.cylinder, cylinderForm), (.sphere, sphereForm)] := rfl

/-- What is asked of each form and of each two of them. Their pieces decide it. -/
theorem forms_told :
    (∀ form ∈ Template.forms, separated form.2 = true ∧ cutsOnce form.2 = true) ∧
      Template.forms.Pairwise fun f g => tellsApart f.2 g.2 = true := by decide

theorem separated_forms : ∀ form ∈ Template.forms, separated form.2 = true :=
  fun form hform => (forms_told.1 form hform).1

theorem determined_forms : ∀ form ∈ Template.forms, Determined form.2 :=
  fun form hform => determined_of_cutsOnce (forms_told.1 form hform).2

theorem apart_forms : Template.forms.Pairwise fun f g => Apart f.2 g.2 :=
  forms_told.2.imp apart_of_tellsApart

variable {s : List Char} {cs cs' : List Capture}

/-- A line has one form at most, and is cut in one way as far as it is kept. -/
theorem forms_unique {f g : Template × List Piece} (hf : f ∈ Template.forms) (hg : g ∈ Template.forms)
    (h : Fits f.2 s cs) (h' : Fits g.2 s cs') : f = g ∧ cs = cs' := by
  have hself : ∀ f ∈ Template.forms, ∀ s cs cs', Fits f.2 s cs → Fits f.2 s cs' → f = f ∧ cs = cs' :=
    fun f hf s cs cs' h h' => ⟨rfl, determined_forms f hf s cs cs' h h'⟩
  have hpairs : Template.forms.Pairwise fun f g => ∀ s cs cs', Fits f.2 s cs → Fits g.2 s cs' → f = g ∧ cs = cs' :=
    apart_forms.imp fun hapart s cs cs' h h' => absurd h' (hapart s cs cs' h)
  have hflip : Template.forms.Pairwise fun f g => ∀ s cs cs', Fits g.2 s cs → Fits f.2 s cs' → g = f ∧ cs = cs' :=
    apart_forms.imp fun hapart s cs cs' h h' => absurd h (hapart s cs' cs h')
  exact hpairs.forall_of_forall_of_flip hself hflip hf hg s cs cs' h h'

end PromptCad.Prompt
