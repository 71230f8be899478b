import Letterbox.Html.Page
import Letterbox.Text.Lines

namespace Letterbox.Html

open Letterbox.Text

def pageWidth : Nat := 1000

def render (html : List Char) : List Char :=
  let page := ((Flow.ofMarkup (Markup.parse html)).map fun f =>
    Page.put { width := pageWidth } f).getD { width := pageWidth }
  page.rendered.flatMap fun l => l ++ ['\n']

def cleanLines (afterBlank : Bool) : List (List Char) → List Char
  | [] => []
  | l :: rest =>
    let t := trim l
    if t.isEmpty then
      if afterBlank then cleanLines true rest else '\n' :: cleanLines true rest
    else t ++ '\n' :: cleanLines false rest

def clean (rendered : List Char) : List Char :=
  trim (cleanLines false (lines rendered))

def toText (html : String) : String :=
  String.ofList (clean (render html.toList))

end Letterbox.Html
