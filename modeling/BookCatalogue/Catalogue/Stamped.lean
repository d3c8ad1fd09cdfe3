import BookCatalogue.Catalogue.Basic

/-! # Stamped catalogues

A catalogue under a clock. Adding a book stamps its row with the second that the clock shows, twice;
replacing a book puts that second in place of the later one of its stamp. -/

namespace BookCatalogue.Catalogue

/-- A catalogue with the stamps of its rows, in order of arrival, and the readings of the clock that
are still to come. -/
structure Stamped where
  catalogue : Catalogue
  stamps : List (Text.FoldedKey × Stamp)
  clock : Nat → Reading

namespace Stamped

def new (clock : Nat → Reading) : Stamped := ⟨.empty, [], clock⟩

def now (s : Stamped) : Int := (s.clock 0).second

def create (s : Stamped) (b : Book) : Except Error Stamped :=
  (s.catalogue.create b).map fun after =>
    { s with catalogue := after, stamps := s.stamps ++ [((Row.ofBook b).key, ⟨s.now, s.now⟩)] }

def update (s : Stamped) (b : Book) : Except Error Stamped :=
  (s.catalogue.update b).map fun after =>
    { s with
      catalogue := after
      stamps := s.stamps.map fun (key, stamp) =>
        (key, if key = (Row.ofBook b).key then { stamp with updated := s.now } else stamp) }

/-- The next reading of the clock comes up. -/
def tick (s : Stamped) : Stamped := { s with clock := fun i => s.clock (i + 1) }

/-- The stamps of the rows and the reading that is due. -/
def times (s : Stamped) : Times := ⟨fun key => s.stamps.lookup key, some (s.clock 0)⟩

def find (s : Stamped) (chain : Filter.Chain) : Except Error (List Book) :=
  s.catalogue.findAt s.times chain

end Stamped

end BookCatalogue.Catalogue
