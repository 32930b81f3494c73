import PlotStream.Fault

/-!
# Room for nested calls

Calls nest inside of one another only so deep. What goes into a value calls itself again for what
the value holds, so it is told how many more calls may still nest (its room), and a value that is
nested too deeply for this is a fault. How much room there is depends on who runs the program and from
where; it is a parameter of everything that is made of the values of a plot.
-/

namespace PlotStream

/-- `inner` inside of so many calls, with the room that they leave; or the fault, if there is no room for
them. -/
def descend {α : Type} (fault : Fault) (calls room : Nat) (inner : Nat → Except Fault α) :
    Except Fault α :=
  if calls ≤ room then inner (room - calls) else .error fault

/-- The calls that writing a value takes before it comes to the value itself. -/
def writingCalls : Nat := 5

/-- The calls between a scalar or an array, which is converted first, and what is written for it. Its
conversion alone takes two, and the lists that stand for the axes of an array one each, besides one
for what the conversion gives. -/
def conversionCalls (axes : Nat) : Nat :=
  max 1 axes + 1

/-- The calls between a model and each of the values that it is constructed with. -/
def modelCalls : Nat := 4

/-- The levels of the messages of the program itself: the call that shows a window is an object with a
list of arguments, one of which is a list of lists of names. -/
def messageLevels : Nat := 4

/-- Room for as many calls as the messages of the program itself take, and perhaps for more. -/
structure Room where
  calls : Nat
  enough : writingCalls + messageLevels ≤ calls

/-- The room there is by default. -/
def Room.standard : Room :=
  ⟨1000, by decide⟩

end PlotStream
