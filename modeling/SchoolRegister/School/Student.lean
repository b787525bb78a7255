import SchoolRegister.Value.Naming

/-! # Students

A student has a number that the school knows, names, and perhaps a gender.  The number is
always a text.  What type the names have depends on where a student comes from: in memory they are
texts, while a database column may hold anything that serves as a `Name`. -/

namespace SchoolRegister

/-- What rosters, records and absence lists say of a student. -/
structure Summary (N : Type) where
  number : String
  surname : N
  name : N
  gender : Option N
  deriving DecidableEq

/-- A student of the school. -/
structure Student (N : Type) where
  id : Int
  number : String
  surname : N
  name : N
  gender : Option N
  deriving DecidableEq

/-- A student's place in a class for one term of a year; the student may be missing. -/
structure Enrolment (N : Type) where
  id : Int
  className : N
  term : Int
  year : Int
  student : Option (Student N)

/-- A class in one term of a year. -/
structure ClassTerm where
  className : String
  term : Int
  year : Int
  deriving DecidableEq

variable {N : Type}

def Student.summary (s : Student N) : Summary N := ⟨s.number, s.surname, s.name, s.gender⟩

namespace Summary

variable [Name N]

/-- The entries that answers give for a student. -/
def entries (s : Summary N) : List (String × Value) :=
  [("student_number", .text s.number), ("surname", Name.value s.surname),
    ("name", Name.value s.name), ("gender", .ofOption (s.gender.map Name.value))]

def document (s : Summary N) : Value := .dict s.entries

end Summary
end SchoolRegister
