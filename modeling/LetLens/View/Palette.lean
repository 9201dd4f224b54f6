import LetLens.Screen.Style

/-! The colours of the inspector, by what is shown in them. -/

namespace LetLens.Palette

def text : Color := .rgb 0xcd 0xd6 0xf4
def bracket : Color := .rgb 0x89 0xb4 0xfa
def muted : Color := .rgb 0x6c 0x70 0x86
def success : Color := .rgb 0xa6 0xe3 0xa1
def error : Color := .rgb 0xf3 0x8b 0xa8
def keyword : Color := .rgb 0x89 0xb4 0xfa
def number : Color := .rgb 0xfa 0xb3 0x87
def operator : Color := .rgb 0x94 0xe2 0xd5
def illegal : Color := .rgb 0xf3 0x8b 0xa8
def focusedFrame : Color := .rgb 0xf9 0xe2 0xaf
def frame : Color := .rgb 0x6c 0x70 0x86
/-- The background of marked lines and of the status bar. -/
def band : Color := .rgb 0x32 0x32 0x46
def node : Color := .rgb 0xf9 0xe2 0xaf
def location : Color := .rgb 0x94 0xe2 0xd5

end LetLens.Palette
