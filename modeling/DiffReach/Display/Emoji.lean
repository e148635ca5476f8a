import DiffReach.Display.Pictures
import DiffReach.Text.Character
import DiffReach.Text.Lines
import DiffReach.Text.Small

namespace DiffReach.Display

open Text

def picture? (name : List Char) : Option (List Char) :=
  let key := String.ofList (toSmall name)
  (pictures.findSome? fun table => table.lookup key).map fun codes => codes.map Char.ofNat

def forms : List (List Char × Char) :=
  [("-emoji".toList, Char.ofNat 0xFE0F), ("-text".toList, Char.ofNat 0xFE0E)]

def splitForm (name : List Char) : List Char × List Char :=
  match forms.find? fun form => form.1.isSuffixOf name with
  | some (mark, c) => (name.take (name.length - mark.length), [c])
  | none => (name, [])

def pictureOrName (name : List Char) : List Char :=
  let (base, form) := splitForm name
  match picture? base with
  | some cs => cs ++ form
  | none => ':' :: (name ++ [':'])

def showPictures : Nat → List Char → List Char
  | _, [] => []
  | skip + 1, _ :: cs => showPictures skip cs
  | 0, c :: cs =>
      let name := cs.takeWhile fun d => d != ':' && !isBlank d
      if c = ':' && (cs.drop name.length).head? == some ':' then
        pictureOrName name ++ showPictures (name.length + 1) cs
      else c :: showPictures 0 cs

def withPictures (cs : List Char) : List Char :=
  showPictures 0 cs

end DiffReach.Display
