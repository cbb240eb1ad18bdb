import NoteBoard.Html.Document

/-! The frame of every page. -/

namespace NoteBoard.Page

open Html

def style : String := "
body \x7b font-family: -apple-system, BlinkMacSystemFont, 'Segoe UI', Roboto, sans-serif; margin: 0; background: #f5f5f5; \x7d
.container \x7b max-width: 960px; margin: 2rem auto; background: #fff; padding: 1.5rem 2rem; border-radius: 8px; \x7d
table \x7b width: 100%; border-collapse: collapse; \x7d
th, td \x7b text-align: left; padding: 0.4rem; border-bottom: 1px solid #e0e0e0; vertical-align: top; \x7d
.note-text \x7b white-space: pre-wrap; margin: 1rem 0; \x7d
label \x7b display: block; margin-top: 0.75rem; \x7d
input[type=text], textarea \x7b width: 100%; \x7d
button, .button \x7b margin-top: 1rem; \x7d
"

def layout (title : String) (body : Document) : Document :=
  [.fixed "<!DOCTYPE html>
<html lang=\"en\">
<head>
    <meta charset=\"UTF-8\">
    <meta name=\"viewport\" content=\"width=device-width, initial-scale=1.0\">
    <title>",
    .escaped title,
    .fixed "</title>
    <style>",
    .fixed style,
    .fixed "</style>
</head>
<body>
    <div class=\"container\">
        "]
    ++ body
    ++ [.fixed "
    </div>
</body>
</html>"]

end NoteBoard.Page
