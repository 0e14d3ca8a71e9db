import Mathlib.Algebra.Ring.Int.Defs
import Mathlib.Data.List.Basic

/-!
# The words of a mnemonic

A mnemonic is written with the 1024 words of `slip39_wordlist.h`, one for each number of
ten bits, in alphabetical order.

The words are spelled with a constant for each letter, which is what makes a list of
this length cheap to check.
-/

namespace Keystone3.Slip39

namespace Letter

def a : UInt8 := 97
def b : UInt8 := 98
def c : UInt8 := 99
def d : UInt8 := 100
def e : UInt8 := 101
def f : UInt8 := 102
def g : UInt8 := 103
def h : UInt8 := 104
def i : UInt8 := 105
def j : UInt8 := 106
def k : UInt8 := 107
def l : UInt8 := 108
def m : UInt8 := 109
def n : UInt8 := 110
def o : UInt8 := 111
def p : UInt8 := 112
def q : UInt8 := 113
def r : UInt8 := 114
def s : UInt8 := 115
def t : UInt8 := 116
def u : UInt8 := 117
def v : UInt8 := 118
def w : UInt8 := 119
def x : UInt8 := 120
def y : UInt8 := 121
def z : UInt8 := 122

end Letter

open Letter in
def slip39Wordlists : List (List UInt8) := [
  [a,c,a,d,e,m,i,c], [a,c,i,d], [a,c,n,e], [a,c,q,u,i,r,e], [a,c,r,o,b,a,t], [a,c,t,i,v,i,t,y],
  [a,c,t,r,e,s,s], [a,d,a,p,t], [a,d,e,q,u,a,t,e], [a,d,j,u,s,t], [a,d,m,i,t], [a,d,o,r,n],
  [a,d,u,l,t], [a,d,v,a,n,c,e], [a,d,v,o,c,a,t,e], [a,f,r,a,i,d], [a,g,a,i,n], [a,g,e,n,c,y],
  [a,g,r,e,e], [a,i,d,e], [a,i,r,c,r,a,f,t], [a,i,r,l,i,n,e], [a,i,r,p,o,r,t], [a,j,a,r],
  [a,l,a,r,m], [a,l,b,u,m], [a,l,c,o,h,o,l], [a,l,i,e,n], [a,l,i,v,e], [a,l,p,h,a], [a,l,r,e,a,d,y],
  [a,l,t,o], [a,l,u,m,i,n,u,m], [a,l,w,a,y,s], [a,m,a,z,i,n,g], [a,m,b,i,t,i,o,n], [a,m,o,u,n,t],
  [a,m,u,s,e], [a,n,a,l,y,s,i,s], [a,n,a,t,o,m,y], [a,n,c,e,s,t,o,r], [a,n,c,i,e,n,t], [a,n,g,e,l],
  [a,n,g,r,y], [a,n,i,m,a,l], [a,n,s,w,e,r], [a,n,t,e,n,n,a], [a,n,x,i,e,t,y], [a,p,a,r,t],
  [a,q,u,a,t,i,c], [a,r,c,a,d,e], [a,r,e,n,a], [a,r,g,u,e], [a,r,m,e,d], [a,r,t,i,s,t],
  [a,r,t,w,o,r,k], [a,s,p,e,c,t], [a,u,c,t,i,o,n], [a,u,g,u,s,t], [a,u,n,t], [a,v,e,r,a,g,e],
  [a,v,i,a,t,i,o,n], [a,v,o,i,d], [a,w,a,r,d], [a,w,a,y], [a,x,i,s], [a,x,l,e], [b,e,a,m],
  [b,e,a,r,d], [b,e,a,v,e,r], [b,e,c,o,m,e], [b,e,d,r,o,o,m], [b,e,h,a,v,i,o,r], [b,e,i,n,g],
  [b,e,l,i,e,v,e], [b,e,l,o,n,g], [b,e,n,e,f,i,t], [b,e,s,t], [b,e,y,o,n,d], [b,i,k,e],
  [b,i,o,l,o,g,y], [b,i,r,t,h,d,a,y], [b,i,s,h,o,p], [b,l,a,c,k], [b,l,a,n,k,e,t],
  [b,l,e,s,s,i,n,g], [b,l,i,m,p], [b,l,i,n,d], [b,l,u,e], [b,o,d,y], [b,o,l,t], [b,o,r,i,n,g],
  [b,o,r,n], [b,o,t,h], [b,o,u,n,d,a,r,y], [b,r,a,c,e,l,e,t], [b,r,a,n,c,h], [b,r,a,v,e],
  [b,r,e,a,t,h,e], [b,r,i,e,f,i,n,g], [b,r,o,k,e,n], [b,r,o,t,h,e,r], [b,r,o,w,s,e,r],
  [b,u,c,k,e,t], [b,u,d,g,e,t], [b,u,i,l,d,i,n,g], [b,u,l,b], [b,u,l,g,e], [b,u,m,p,y],
  [b,u,n,d,l,e], [b,u,r,d,e,n], [b,u,r,n,i,n,g], [b,u,s,y], [b,u,y,e,r], [c,a,g,e], [c,a,l,c,i,u,m],
  [c,a,m,e,r,a], [c,a,m,p,u,s], [c,a,n,y,o,n], [c,a,p,a,c,i,t,y], [c,a,p,i,t,a,l], [c,a,p,t,u,r,e],
  [c,a,r,b,o,n], [c,a,r,d,s], [c,a,r,e,f,u,l], [c,a,r,g,o], [c,a,r,p,e,t], [c,a,r,v,e],
  [c,a,t,e,g,o,r,y], [c,a,u,s,e], [c,e,i,l,i,n,g], [c,e,n,t,e,r], [c,e,r,a,m,i,c],
  [c,h,a,m,p,i,o,n], [c,h,a,n,g,e], [c,h,a,r,i,t,y], [c,h,e,c,k], [c,h,e,m,i,c,a,l], [c,h,e,s,t],
  [c,h,e,w], [c,h,u,b,b,y], [c,i,n,e,m,a], [c,i,v,i,l], [c,l,a,s,s], [c,l,a,y], [c,l,e,a,n,u,p],
  [c,l,i,e,n,t], [c,l,i,m,a,t,e], [c,l,i,n,i,c], [c,l,o,c,k], [c,l,o,g,s], [c,l,o,s,e,t],
  [c,l,o,t,h,e,s], [c,l,u,b], [c,l,u,s,t,e,r], [c,o,a,l], [c,o,a,s,t,a,l], [c,o,d,i,n,g],
  [c,o,l,u,m,n], [c,o,m,p,a,n,y], [c,o,r,n,e,r], [c,o,s,t,u,m,e], [c,o,u,n,t,e,r], [c,o,u,r,s,e],
  [c,o,v,e,r], [c,o,w,b,o,y], [c,r,a,d,l,e], [c,r,a,f,t], [c,r,a,z,y], [c,r,e,d,i,t],
  [c,r,i,c,k,e,t], [c,r,i,m,i,n,a,l], [c,r,i,s,i,s], [c,r,i,t,i,c,a,l], [c,r,o,w,d],
  [c,r,u,c,i,a,l], [c,r,u,n,c,h], [c,r,u,s,h], [c,r,y,s,t,a,l], [c,u,b,i,c], [c,u,l,t,u,r,a,l],
  [c,u,r,i,o,u,s], [c,u,r,l,y], [c,u,s,t,o,d,y], [c,y,l,i,n,d,e,r], [d,a,i,s,y], [d,a,m,a,g,e],
  [d,a,n,c,e], [d,a,r,k,n,e,s,s], [d,a,t,a,b,a,s,e], [d,a,u,g,h,t,e,r], [d,e,a,d,l,i,n,e],
  [d,e,a,l], [d,e,b,r,i,s], [d,e,b,u,t], [d,e,c,e,n,t], [d,e,c,i,s,i,o,n], [d,e,c,l,a,r,e],
  [d,e,c,o,r,a,t,e], [d,e,c,r,e,a,s,e], [d,e,l,i,v,e,r], [d,e,m,a,n,d], [d,e,n,s,i,t,y], [d,e,n,y],
  [d,e,p,a,r,t], [d,e,p,e,n,d], [d,e,p,i,c,t], [d,e,p,l,o,y], [d,e,s,c,r,i,b,e], [d,e,s,e,r,t],
  [d,e,s,i,r,e], [d,e,s,k,t,o,p], [d,e,s,t,r,o,y], [d,e,t,a,i,l,e,d], [d,e,t,e,c,t], [d,e,v,i,c,e],
  [d,e,v,o,t,e], [d,i,a,g,n,o,s,e], [d,i,c,t,a,t,e], [d,i,e,t], [d,i,l,e,m,m,a], [d,i,m,i,n,i,s,h],
  [d,i,n,i,n,g], [d,i,p,l,o,m,a], [d,i,s,a,s,t,e,r], [d,i,s,c,u,s,s], [d,i,s,e,a,s,e], [d,i,s,h],
  [d,i,s,m,i,s,s], [d,i,s,p,l,a,y], [d,i,s,t,a,n,c,e], [d,i,v,e], [d,i,v,o,r,c,e],
  [d,o,c,u,m,e,n,t], [d,o,m,a,i,n], [d,o,m,e,s,t,i,c], [d,o,m,i,n,a,n,t], [d,o,u,g,h],
  [d,o,w,n,t,o,w,n], [d,r,a,g,o,n], [d,r,a,m,a,t,i,c], [d,r,e,a,m], [d,r,e,s,s], [d,r,i,f,t],
  [d,r,i,n,k], [d,r,o,v,e], [d,r,u,g], [d,r,y,e,r], [d,u,c,k,l,i,n,g], [d,u,k,e], [d,u,r,a,t,i,o,n],
  [d,w,a,r,f], [d,y,n,a,m,i,c], [e,a,r,l,y], [e,a,r,t,h], [e,a,s,e,l], [e,a,s,y], [e,c,h,o],
  [e,c,l,i,p,s,e], [e,c,o,l,o,g,y], [e,d,g,e], [e,d,i,t,o,r], [e,d,u,c,a,t,e], [e,i,t,h,e,r],
  [e,l,b,o,w], [e,l,d,e,r], [e,l,e,c,t,i,o,n], [e,l,e,g,a,n,t], [e,l,e,m,e,n,t], [e,l,e,p,h,a,n,t],
  [e,l,e,v,a,t,o,r], [e,l,i,t,e], [e,l,s,e], [e,m,a,i,l], [e,m,e,r,a,l,d], [e,m,i,s,s,i,o,n],
  [e,m,p,e,r,o,r], [e,m,p,h,a,s,i,s], [e,m,p,l,o,y,e,r], [e,m,p,t,y], [e,n,d,i,n,g],
  [e,n,d,l,e,s,s], [e,n,d,o,r,s,e], [e,n,e,m,y], [e,n,e,r,g,y], [e,n,f,o,r,c,e], [e,n,g,a,g,e],
  [e,n,j,o,y], [e,n,l,a,r,g,e], [e,n,t,r,a,n,c,e], [e,n,v,e,l,o,p,e], [e,n,v,y], [e,p,i,d,e,m,i,c],
  [e,p,i,s,o,d,e], [e,q,u,a,t,i,o,n], [e,q,u,i,p], [e,r,a,s,e,r], [e,r,o,d,e], [e,s,c,a,p,e],
  [e,s,t,a,t,e], [e,s,t,i,m,a,t,e], [e,v,a,l,u,a,t,e], [e,v,e,n,i,n,g], [e,v,i,d,e,n,c,e],
  [e,v,i,l], [e,v,o,k,e], [e,x,a,c,t], [e,x,a,m,p,l,e], [e,x,c,e,e,d], [e,x,c,h,a,n,g,e],
  [e,x,c,l,u,d,e], [e,x,c,u,s,e], [e,x,e,c,u,t,e], [e,x,e,r,c,i,s,e], [e,x,h,a,u,s,t],
  [e,x,o,t,i,c], [e,x,p,a,n,d], [e,x,p,e,c,t], [e,x,p,l,a,i,n], [e,x,p,r,e,s,s], [e,x,t,e,n,d],
  [e,x,t,r,a], [e,y,e,b,r,o,w], [f,a,c,i,l,i,t,y], [f,a,c,t], [f,a,i,l,u,r,e], [f,a,i,n,t],
  [f,a,k,e], [f,a,l,s,e], [f,a,m,i,l,y], [f,a,m,o,u,s], [f,a,n,c,y], [f,a,n,g,s], [f,a,n,t,a,s,y],
  [f,a,t,a,l], [f,a,t,i,g,u,e], [f,a,v,o,r,i,t,e], [f,a,w,n], [f,i,b,e,r], [f,i,c,t,i,o,n],
  [f,i,l,t,e,r], [f,i,n,a,n,c,e], [f,i,n,d,i,n,g,s], [f,i,n,g,e,r], [f,i,r,e,f,l,y], [f,i,r,m],
  [f,i,s,c,a,l], [f,i,s,h,i,n,g], [f,i,t,n,e,s,s], [f,l,a,m,e], [f,l,a,s,h], [f,l,a,v,o,r],
  [f,l,e,a], [f,l,e,x,i,b,l,e], [f,l,i,p], [f,l,o,a,t], [f,l,o,r,a,l], [f,l,u,f,f], [f,o,c,u,s],
  [f,o,r,b,i,d], [f,o,r,c,e], [f,o,r,e,c,a,s,t], [f,o,r,g,e,t], [f,o,r,m,a,l], [f,o,r,t,u,n,e],
  [f,o,r,w,a,r,d], [f,o,u,n,d,e,r], [f,r,a,c,t,i,o,n], [f,r,a,g,m,e,n,t], [f,r,e,q,u,e,n,t],
  [f,r,e,s,h,m,a,n], [f,r,i,a,r], [f,r,i,d,g,e], [f,r,i,e,n,d,l,y], [f,r,o,s,t], [f,r,o,t,h],
  [f,r,o,z,e,n], [f,u,m,e,s], [f,u,n,d,i,n,g], [f,u,r,l], [f,u,s,e,d], [g,a,l,a,x,y], [g,a,m,e],
  [g,a,r,b,a,g,e], [g,a,r,d,e,n], [g,a,r,l,i,c], [g,a,s,o,l,i,n,e], [g,a,t,h,e,r], [g,e,n,e,r,a,l],
  [g,e,n,i,u,s], [g,e,n,r,e], [g,e,n,u,i,n,e], [g,e,o,l,o,g,y], [g,e,s,t,u,r,e], [g,l,a,d],
  [g,l,a,n,c,e], [g,l,a,s,s,e,s], [g,l,e,n], [g,l,i,m,p,s,e], [g,o,a,t], [g,o,l,d,e,n],
  [g,r,a,d,u,a,t,e], [g,r,a,n,t], [g,r,a,s,p], [g,r,a,v,i,t,y], [g,r,a,y], [g,r,e,a,t,e,s,t],
  [g,r,i,e,f], [g,r,i,l,l], [g,r,i,n], [g,r,o,c,e,r,y], [g,r,o,s,s], [g,r,o,u,p], [g,r,o,w,n,u,p],
  [g,r,u,m,p,y], [g,u,a,r,d], [g,u,e,s,t], [g,u,i,l,t], [g,u,i,t,a,r], [g,u,m,s], [h,a,i,r,y],
  [h,a,m,s,t,e,r], [h,a,n,d], [h,a,n,g,e,r], [h,a,r,v,e,s,t], [h,a,v,e], [h,a,v,o,c], [h,a,w,k],
  [h,a,z,a,r,d], [h,e,a,d,s,e,t], [h,e,a,l,t,h], [h,e,a,r,i,n,g], [h,e,a,t], [h,e,l,p,f,u,l],
  [h,e,r,a,l,d], [h,e,r,d], [h,e,s,i,t,a,t,e], [h,o,b,o], [h,o,l,i,d,a,y], [h,o,l,y], [h,o,m,e],
  [h,o,r,m,o,n,e], [h,o,s,p,i,t,a,l], [h,o,u,r], [h,u,g,e], [h,u,m,a,n], [h,u,m,i,d,i,t,y],
  [h,u,n,t,i,n,g], [h,u,s,b,a,n,d], [h,u,s,h], [h,u,s,k,y], [h,y,b,r,i,d], [i,d,e,a],
  [i,d,e,n,t,i,f,y], [i,d,l,e], [i,m,a,g,e], [i,m,p,a,c,t], [i,m,p,l,y], [i,m,p,r,o,v,e],
  [i,m,p,u,l,s,e], [i,n,c,l,u,d,e], [i,n,c,o,m,e], [i,n,c,r,e,a,s,e], [i,n,d,e,x],
  [i,n,d,i,c,a,t,e], [i,n,d,u,s,t,r,y], [i,n,f,a,n,t], [i,n,f,o,r,m], [i,n,h,e,r,i,t],
  [i,n,j,u,r,y], [i,n,m,a,t,e], [i,n,s,e,c,t], [i,n,s,i,d,e], [i,n,s,t,a,l,l], [i,n,t,e,n,d],
  [i,n,t,i,m,a,t,e], [i,n,v,a,s,i,o,n], [i,n,v,o,l,v,e], [i,r,i,s], [i,s,l,a,n,d], [i,s,o,l,a,t,e],
  [i,t,e,m], [i,v,o,r,y], [j,a,c,k,e,t], [j,e,r,k,y], [j,e,w,e,l,r,y], [j,o,i,n], [j,u,d,i,c,i,a,l],
  [j,u,i,c,e], [j,u,m,p], [j,u,n,c,t,i,o,n], [j,u,n,i,o,r], [j,u,n,k], [j,u,r,y], [j,u,s,t,i,c,e],
  [k,e,r,n,e,l], [k,e,y,b,o,a,r,d], [k,i,d,n,e,y], [k,i,n,d], [k,i,t,c,h,e,n], [k,n,i,f,e],
  [k,n,i,t], [l,a,d,e,n], [l,a,d,l,e], [l,a,d,y,b,u,g], [l,a,i,r], [l,a,m,p], [l,a,n,g,u,a,g,e],
  [l,a,r,g,e], [l,a,s,e,r], [l,a,u,n,d,r,y], [l,a,w,s,u,i,t], [l,e,a,d,e,r], [l,e,a,f], [l,e,a,r,n],
  [l,e,a,v,e,s], [l,e,c,t,u,r,e], [l,e,g,a,l], [l,e,g,e,n,d], [l,e,g,s], [l,e,n,d], [l,e,n,g,t,h],
  [l,e,v,e,l], [l,i,b,e,r,t,y], [l,i,b,r,a,r,y], [l,i,c,e,n,s,e], [l,i,f,t], [l,i,k,e,l,y],
  [l,i,l,a,c], [l,i,l,y], [l,i,p,s], [l,i,q,u,i,d], [l,i,s,t,e,n], [l,i,t,e,r,a,r,y], [l,i,v,i,n,g],
  [l,i,z,a,r,d], [l,o,a,n], [l,o,b,e], [l,o,c,a,t,i,o,n], [l,o,s,i,n,g], [l,o,u,d], [l,o,y,a,l,t,y],
  [l,u,c,k], [l,u,n,a,r], [l,u,n,c,h], [l,u,n,g,s], [l,u,x,u,r,y], [l,y,i,n,g], [l,y,r,i,c,s],
  [m,a,c,h,i,n,e], [m,a,g,a,z,i,n,e], [m,a,i,d,e,n], [m,a,i,l,m,a,n], [m,a,i,n], [m,a,k,e,u,p],
  [m,a,k,i,n,g], [m,a,m,a], [m,a,n,a,g,e,r], [m,a,n,d,a,t,e], [m,a,n,s,i,o,n], [m,a,n,u,a,l],
  [m,a,r,a,t,h,o,n], [m,a,r,c,h], [m,a,r,k,e,t], [m,a,r,v,e,l], [m,a,s,o,n], [m,a,t,e,r,i,a,l],
  [m,a,t,h], [m,a,x,i,m,u,m], [m,a,y,o,r], [m,e,a,n,i,n,g], [m,e,d,a,l], [m,e,d,i,c,a,l],
  [m,e,m,b,e,r], [m,e,m,o,r,y], [m,e,n,t,a,l], [m,e,r,c,h,a,n,t], [m,e,r,i,t], [m,e,t,h,o,d],
  [m,e,t,r,i,c], [m,i,d,s,t], [m,i,l,d], [m,i,l,i,t,a,r,y], [m,i,n,e,r,a,l], [m,i,n,i,s,t,e,r],
  [m,i,r,a,c,l,e], [m,i,x,e,d], [m,i,x,t,u,r,e], [m,o,b,i,l,e], [m,o,d,e,r,n], [m,o,d,i,f,y],
  [m,o,i,s,t,u,r,e], [m,o,m,e,n,t], [m,o,r,n,i,n,g], [m,o,r,t,g,a,g,e], [m,o,t,h,e,r],
  [m,o,u,n,t,a,i,n], [m,o,u,s,e], [m,o,v,e], [m,u,c,h], [m,u,l,e], [m,u,l,t,i,p,l,e], [m,u,s,c,l,e],
  [m,u,s,e,u,m], [m,u,s,i,c], [m,u,s,t,a,n,g], [n,a,i,l], [n,a,t,i,o,n,a,l], [n,e,c,k,l,a,c,e],
  [n,e,g,a,t,i,v,e], [n,e,r,v,o,u,s], [n,e,t,w,o,r,k], [n,e,w,s], [n,u,c,l,e,a,r], [n,u,m,b],
  [n,u,m,e,r,o,u,s], [n,y,l,o,n], [o,a,s,i,s], [o,b,e,s,i,t,y], [o,b,j,e,c,t], [o,b,s,e,r,v,e],
  [o,b,t,a,i,n], [o,c,e,a,n], [o,f,t,e,n], [o,l,y,m,p,i,c], [o,m,i,t], [o,r,a,l], [o,r,a,n,g,e],
  [o,r,b,i,t], [o,r,d,e,r], [o,r,d,i,n,a,r,y], [o,r,g,a,n,i,z,e], [o,u,n,c,e], [o,v,e,n],
  [o,v,e,r,a,l,l], [o,w,n,e,r], [p,a,c,e,s], [p,a,c,i,f,i,c], [p,a,c,k,a,g,e], [p,a,i,d],
  [p,a,i,n,t,i,n,g], [p,a,j,a,m,a,s], [p,a,n,c,a,k,e], [p,a,n,t,s], [p,a,p,a], [p,a,p,e,r],
  [p,a,r,c,e,l], [p,a,r,k,i,n,g], [p,a,r,t,y], [p,a,t,e,n,t], [p,a,t,r,o,l], [p,a,y,m,e,n,t],
  [p,a,y,r,o,l,l], [p,e,a,c,e,f,u,l], [p,e,a,n,u,t], [p,e,a,s,a,n,t], [p,e,c,a,n], [p,e,n,a,l,t,y],
  [p,e,n,c,i,l], [p,e,r,c,e,n,t], [p,e,r,f,e,c,t], [p,e,r,m,i,t], [p,e,t,i,t,i,o,n],
  [p,h,a,n,t,o,m], [p,h,a,r,m,a,c,y], [p,h,o,t,o], [p,h,r,a,s,e], [p,h,y,s,i,c,s], [p,i,c,k,u,p],
  [p,i,c,t,u,r,e], [p,i,e,c,e], [p,i,l,e], [p,i,n,k], [p,i,p,e,l,i,n,e], [p,i,s,t,o,l], [p,i,t,c,h],
  [p,l,a,i,n,s], [p,l,a,n], [p,l,a,s,t,i,c], [p,l,a,t,f,o,r,m], [p,l,a,y,o,f,f], [p,l,e,a,s,u,r,e],
  [p,l,o,t], [p,l,u,n,g,e], [p,r,a,c,t,i,c,e], [p,r,a,y,e,r], [p,r,e,a,c,h], [p,r,e,d,a,t,o,r],
  [p,r,e,g,n,a,n,t], [p,r,e,m,i,u,m], [p,r,e,p,a,r,e], [p,r,e,s,e,n,c,e], [p,r,e,v,e,n,t],
  [p,r,i,e,s,t], [p,r,i,m,a,r,y], [p,r,i,o,r,i,t,y], [p,r,i,s,o,n,e,r], [p,r,i,v,a,c,y],
  [p,r,i,z,e], [p,r,o,b,l,e,m], [p,r,o,c,e,s,s], [p,r,o,f,i,l,e], [p,r,o,g,r,a,m], [p,r,o,m,i,s,e],
  [p,r,o,s,p,e,c,t], [p,r,o,v,i,d,e], [p,r,u,n,e], [p,u,b,l,i,c], [p,u,l,s,e], [p,u,m,p,s],
  [p,u,n,i,s,h], [p,u,n,y], [p,u,p,a,l], [p,u,r,c,h,a,s,e], [p,u,r,p,l,e], [p,y,t,h,o,n],
  [q,u,a,n,t,i,t,y], [q,u,a,r,t,e,r], [q,u,i,c,k], [q,u,i,e,t], [r,a,c,e], [r,a,c,i,s,m],
  [r,a,d,a,r], [r,a,i,l,r,o,a,d], [r,a,i,n,b,o,w], [r,a,i,s,i,n], [r,a,n,d,o,m], [r,a,n,k,e,d],
  [r,a,p,i,d,s], [r,a,s,p,y], [r,e,a,c,t,i,o,n], [r,e,a,l,i,z,e], [r,e,b,o,u,n,d], [r,e,b,u,i,l,d],
  [r,e,c,a,l,l], [r,e,c,e,i,v,e,r], [r,e,c,o,v,e,r], [r,e,g,r,e,t], [r,e,g,u,l,a,r], [r,e,j,e,c,t],
  [r,e,l,a,t,e], [r,e,m,e,m,b,e,r], [r,e,m,i,n,d], [r,e,m,o,v,e], [r,e,n,d,e,r], [r,e,p,a,i,r],
  [r,e,p,e,a,t], [r,e,p,l,a,c,e], [r,e,q,u,i,r,e], [r,e,s,c,u,e], [r,e,s,e,a,r,c,h],
  [r,e,s,i,d,e,n,t], [r,e,s,p,o,n,s,e], [r,e,s,u,l,t], [r,e,t,a,i,l,e,r], [r,e,t,r,e,a,t],
  [r,e,u,n,i,o,n], [r,e,v,e,n,u,e], [r,e,v,i,e,w], [r,e,w,a,r,d], [r,h,y,m,e], [r,h,y,t,h,m],
  [r,i,c,h], [r,i,v,a,l], [r,i,v,e,r], [r,o,b,i,n], [r,o,c,k,y], [r,o,m,a,n,t,i,c], [r,o,m,p],
  [r,o,s,t,e,r], [r,o,u,n,d], [r,o,y,a,l], [r,u,i,n], [r,u,l,e,r], [r,u,m,o,r], [s,a,c,k],
  [s,a,f,a,r,i], [s,a,l,a,r,y], [s,a,l,o,n], [s,a,l,t], [s,a,t,i,s,f,y], [s,a,t,o,s,h,i],
  [s,a,v,e,r], [s,a,y,s], [s,c,a,n,d,a,l], [s,c,a,r,e,d], [s,c,a,t,t,e,r], [s,c,e,n,e],
  [s,c,h,o,l,a,r], [s,c,i,e,n,c,e], [s,c,o,u,t], [s,c,r,a,m,b,l,e], [s,c,r,e,w], [s,c,r,i,p,t],
  [s,c,r,o,l,l], [s,e,a,f,o,o,d], [s,e,a,s,o,n], [s,e,c,r,e,t], [s,e,c,u,r,i,t,y], [s,e,g,m,e,n,t],
  [s,e,n,i,o,r], [s,h,a,d,o,w], [s,h,a,f,t], [s,h,a,m,e], [s,h,a,p,e,d], [s,h,a,r,p],
  [s,h,e,l,t,e,r], [s,h,e,r,i,f,f], [s,h,o,r,t], [s,h,o,u,l,d], [s,h,r,i,m,p], [s,i,d,e,w,a,l,k],
  [s,i,l,e,n,t], [s,i,l,v,e,r], [s,i,m,i,l,a,r], [s,i,m,p,l,e], [s,i,n,g,l,e], [s,i,s,t,e,r],
  [s,k,i,n], [s,k,u,n,k], [s,l,a,p], [s,l,a,v,e,r,y], [s,l,e,d], [s,l,i,c,e], [s,l,i,m], [s,l,o,w],
  [s,l,u,s,h], [s,m,a,r,t], [s,m,e,a,r], [s,m,e,l,l], [s,m,i,r,k], [s,m,i,t,h], [s,m,o,k,i,n,g],
  [s,m,u,g], [s,n,a,k,e], [s,n,a,p,s,h,o,t], [s,n,i,f,f], [s,o,c,i,e,t,y], [s,o,f,t,w,a,r,e],
  [s,o,l,d,i,e,r], [s,o,l,u,t,i,o,n], [s,o,u,l], [s,o,u,r,c,e], [s,p,a,c,e], [s,p,a,r,k],
  [s,p,e,a,k], [s,p,e,c,i,e,s], [s,p,e,l,l,i,n,g], [s,p,e,n,d], [s,p,e,w], [s,p,i,d,e,r],
  [s,p,i,l,l], [s,p,i,n,e], [s,p,i,r,i,t], [s,p,i,t], [s,p,r,a,y], [s,p,r,i,n,k,l,e], [s,q,u,a,r,e],
  [s,q,u,e,e,z,e], [s,t,a,d,i,u,m], [s,t,a,f,f], [s,t,a,n,d,a,r,d], [s,t,a,r,t,i,n,g],
  [s,t,a,t,i,o,n], [s,t,a,y], [s,t,e,a,d,y], [s,t,e,p], [s,t,i,c,k], [s,t,i,l,t], [s,t,o,r,y],
  [s,t,r,a,t,e,g,y], [s,t,r,i,k,e], [s,t,y,l,e], [s,u,b,j,e,c,t], [s,u,b,m,i,t], [s,u,g,a,r],
  [s,u,i,t,a,b,l,e], [s,u,n,l,i,g,h,t], [s,u,p,e,r,i,o,r], [s,u,r,f,a,c,e], [s,u,r,p,r,i,s,e],
  [s,u,r,v,i,v,e], [s,w,e,a,t,e,r], [s,w,i,m,m,i,n,g], [s,w,i,n,g], [s,w,i,t,c,h],
  [s,y,m,b,o,l,i,c], [s,y,m,p,a,t,h,y], [s,y,n,d,r,o,m,e], [s,y,s,t,e,m], [t,a,c,k,l,e],
  [t,a,c,t,i,c,s], [t,a,d,p,o,l,e], [t,a,l,e,n,t], [t,a,s,k], [t,a,s,t,e], [t,a,u,g,h,t], [t,a,x,i],
  [t,e,a,c,h,e,r], [t,e,a,m,m,a,t,e], [t,e,a,s,p,o,o,n], [t,e,m,p,l,e], [t,e,n,a,n,t],
  [t,e,n,d,e,n,c,y], [t,e,n,s,i,o,n], [t,e,r,m,i,n,a,l], [t,e,s,t,i,f,y], [t,e,x,t,u,r,e],
  [t,h,a,n,k], [t,h,a,t], [t,h,e,a,t,e,r], [t,h,e,o,r,y], [t,h,e,r,a,p,y], [t,h,o,r,n],
  [t,h,r,e,a,t,e,n], [t,h,u,m,b], [t,h,u,n,d,e,r], [t,i,c,k,e,t], [t,i,d,y], [t,i,m,b,e,r],
  [t,i,m,e,l,y], [t,i,n,g], [t,o,f,u], [t,o,g,e,t,h,e,r], [t,o,l,e,r,a,t,e], [t,o,t,a,l],
  [t,o,x,i,c], [t,r,a,c,k,s], [t,r,a,f,f,i,c], [t,r,a,i,n,i,n,g], [t,r,a,n,s,f,e,r], [t,r,a,s,h],
  [t,r,a,v,e,l,e,r], [t,r,e,a,t], [t,r,e,n,d], [t,r,i,a,l], [t,r,i,c,y,c,l,e], [t,r,i,p],
  [t,r,i,u,m,p,h], [t,r,o,u,b,l,e], [t,r,u,e], [t,r,u,s,t], [t,w,i,c,e], [t,w,i,n], [t,y,p,e],
  [t,y,p,i,c,a,l], [u,g,l,y], [u,l,t,i,m,a,t,e], [u,m,b,r,e,l,l,a], [u,n,c,o,v,e,r],
  [u,n,d,e,r,g,o], [u,n,f,a,i,r], [u,n,f,o,l,d], [u,n,h,a,p,p,y], [u,n,i,o,n], [u,n,i,v,e,r,s,e],
  [u,n,k,i,n,d], [u,n,k,n,o,w,n], [u,n,u,s,u,a,l], [u,n,w,r,a,p], [u,p,g,r,a,d,e],
  [u,p,s,t,a,i,r,s], [u,s,e,r,n,a,m,e], [u,s,h,e,r], [u,s,u,a,l], [v,a,l,i,d], [v,a,l,u,a,b,l,e],
  [v,a,m,p,i,r,e], [v,a,n,i,s,h], [v,a,r,i,o,u,s], [v,e,g,a,n], [v,e,l,v,e,t], [v,e,n,t,u,r,e],
  [v,e,r,d,i,c,t], [v,e,r,i,f,y], [v,e,r,y], [v,e,t,e,r,a,n], [v,e,x,e,d], [v,i,c,t,i,m],
  [v,i,d,e,o], [v,i,e,w], [v,i,n,t,a,g,e], [v,i,o,l,e,n,c,e], [v,i,r,a,l], [v,i,s,i,t,o,r],
  [v,i,s,u,a,l], [v,i,t,a,m,i,n,s], [v,o,c,a,l], [v,o,i,c,e], [v,o,l,u,m,e], [v,o,t,e,r],
  [v,o,t,i,n,g], [w,a,l,n,u,t], [w,a,r,m,t,h], [w,a,r,n], [w,a,t,c,h], [w,a,v,y], [w,e,a,l,t,h,y],
  [w,e,a,p,o,n], [w,e,b,c,a,m], [w,e,l,c,o,m,e], [w,e,l,f,a,r,e], [w,e,s,t,e,r,n], [w,i,d,t,h],
  [w,i,l,d,l,i,f,e], [w,i,n,d,o,w], [w,i,n,e], [w,i,r,e,l,e,s,s], [w,i,s,d,o,m], [w,i,t,h,d,r,a,w],
  [w,i,t,s], [w,o,l,f], [w,o,m,a,n], [w,o,r,k], [w,o,r,t,h,y], [w,r,a,p], [w,r,i,s,t],
  [w,r,i,t,i,n,g], [w,r,o,t,e], [y,e,a,r], [y,e,l,p], [y,i,e,l,d], [y,o,g,a], [z,e,r,o]]

set_option maxRecDepth 16384 in
theorem length_slip39Wordlists : slip39Wordlists.length = 1024 := by decide

set_option maxRecDepth 16384 in
theorem isChain_slip39Wordlists : slip39Wordlists.IsChain (· < ·) := by decide

theorem pairwise_slip39Wordlists : slip39Wordlists.Pairwise (· < ·) :=
  List.isChain_iff_pairwise.mp isChain_slip39Wordlists

def isLetter (c : UInt8) : Bool := 97 ≤ c && c ≤ 122

set_option maxRecDepth 16384 in
theorem spelling : ∀ w ∈ slip39Wordlists, w ≠ [] ∧ w.length < 15 ∧ w.all isLetter := by
  decide

/-- The loop of `slip39_word_for_string` between `lo` and `hi`, neither of which
is a candidate. Half of the candidates go in each round, so that eleven rounds
are enough for 1024. -/
def bisect (word : List UInt8) : Nat → Int → Int → Option Nat
  | 0, _, _ => none
  | rounds + 1, lo, hi =>
    if lo + 1 < hi then
      let mid := (hi + lo) / 2
      let entry := slip39Wordlists.getD mid.toNat []
      if entry < word then bisect word rounds mid hi
      else if word < entry then bisect word rounds lo mid
      else some mid.toNat
    else none

/-- `slip39_word_for_string`; `none` is `SLIP39_INVALID_MNEMONIC_INDEX`. -/
@[irreducible]
def slip39WordForString (word : List UInt8) : Option Nat := bisect word 11 (-1) 1024

theorem bisect_spec {word : List UInt8} {k : Nat} (hk : slip39Wordlists[k]? = some word) :
    ∀ (rounds : Nat) (lo hi : Int), lo < k → k < hi → -1 ≤ lo → hi ≤ 1024 →
      hi - lo ≤ 2 ^ rounds → bisect word rounds lo hi = some k := by
  intro rounds
  induction rounds with
  | zero => intro lo hi h1 h2 _ _ h5; omega
  | succ rounds ih =>
    intro lo hi h1 h2 h3 h4 h5
    rw [Int.pow_succ] at h5
    have hlength := length_slip39Wordlists
    have hmid : lo < (hi + lo) / 2 ∧ (hi + lo) / 2 < hi := ⟨by omega, by omega⟩
    have hat : ((hi + lo) / 2).toNat < slip39Wordlists.length := by omega
    have hklt : k < slip39Wordlists.length := (List.getElem?_eq_some_iff.mp hk).1
    have hword : slip39Wordlists[k] = word := (List.getElem?_eq_some_iff.mp hk).2
    have hentry : slip39Wordlists.getD ((hi + lo) / 2).toNat []
        = slip39Wordlists[((hi + lo) / 2).toNat] := by
      rw [List.getD_eq_getElem?_getD, List.getElem?_eq_getElem hat, Option.getD_some]
    have hbelow : ∀ {i j : Nat} (hi : i < slip39Wordlists.length) (hj : j < slip39Wordlists.length),
        i < j → slip39Wordlists[i] < slip39Wordlists[j] := fun hi hj hij =>
      List.pairwise_iff_getElem.mp pairwise_slip39Wordlists _ _ hi hj hij
    rw [bisect, if_pos (by omega)]
    simp only [hentry]
    rcases Int.lt_trichotomy ((hi + lo) / 2) k with hlt | heq | hgt
    · have := hbelow hat hklt (by omega)
      rw [if_pos (hword ▸ this)]
      exact ih _ _ hlt h2 (by omega) h4 (by omega)
    · have hsame : ((hi + lo) / 2).toNat = k := by omega
      simp only [hsame, hword, List.lt_irrefl, if_false]
    · have := hbelow hklt hat (by omega)
      rw [hword] at this
      rw [if_neg (List.lt_asymm this), if_pos this]
      exact ih _ _ h1 hgt h3 (by omega) (by omega)

/-- **Every word of the list is found**, at its own place. -/
theorem slip39WordForString_of_get {word : List UInt8} {k : Nat}
    (hk : slip39Wordlists[k]? = some word) : slip39WordForString word = some k := by
  have hlt := (List.getElem?_eq_some_iff.mp hk).1
  rw [length_slip39Wordlists] at hlt
  unfold slip39WordForString
  exact bisect_spec hk 11 (-1) 1024 (by omega) (by omega) (by omega) (by omega) (by decide)

def slip39StringForWord (word : Nat) : List UInt8 := slip39Wordlists.getD word []

def slip39StringsForWords (words : List Nat) : List UInt8 :=
  [32].intercalate (words.map slip39StringForWord)

/-- What a run of letters leaves in `buf`. The counter is a byte, so every 256
letters start over, and no more than fifteen are kept. -/
def wordBuffer (run : List UInt8) : List UInt8 := (run.drop (run.length / 256 * 256)).take 15

/-- The loop of `slip39_words_for_strings`, with room for so many words: the
number of words, `none` for `SLIP39_INVALID_MNEMONIC_INDEX`, and the words that
were written. A round takes a character at least. -/
def readWords : Nat → List UInt8 → Nat → Option Nat × List Nat
  | 0, _, _ => (some 0, [])
  | rounds + 1, text, room =>
    if text = [] then (some 0, [])
    else
      let run := text.takeWhile isLetter
      let next := (text.dropWhile isLetter).dropWhile fun c => !isLetter c
      match room with
      | 0 =>
        let r := readWords rounds next 0
        (r.1.map (· + 1), r.2)
      | room + 1 =>
        match slip39WordForString (wordBuffer run) with
        | none => (none, [])
        | some word =>
          let r := readWords rounds next room
          (r.1.map (· + 1), word :: r.2)

def slip39WordsForStrings (wordsString : List UInt8) (wordsLength : Nat) :
    Option Nat × List Nat := readWords wordsString.length wordsString wordsLength

theorem getElem?_slip39StringForWord {w : Nat} (hw : w < 1024) :
    slip39Wordlists[w]? = some (slip39StringForWord w) := by
  have hlt : w < slip39Wordlists.length := by rwa [length_slip39Wordlists]
  rw [slip39StringForWord, List.getD_eq_getElem?_getD, List.getElem?_eq_getElem hlt]
  rfl

theorem spelling_slip39StringForWord {w : Nat} (hw : w < 1024) :
    slip39StringForWord w ≠ [] ∧ (slip39StringForWord w).length < 15
      ∧ ∀ c ∈ slip39StringForWord w, isLetter c = true := by
  have hin := List.mem_of_getElem? (getElem?_slip39StringForWord hw)
  obtain ⟨h1, h2, h3⟩ := spelling _ hin
  exact ⟨h1, h2, List.all_eq_true.mp h3⟩

theorem wordBuffer_slip39StringForWord {w : Nat} (hw : w < 1024) :
    wordBuffer (slip39StringForWord w) = slip39StringForWord w := by
  have hlength := (spelling_slip39StringForWord hw).2.1
  rw [wordBuffer, Nat.div_eq_of_lt (by omega), Nat.zero_mul, List.drop_zero,
    List.take_of_length_le (Nat.le_of_lt hlength)]

theorem readWords_found {text : List UInt8} {w : Nat} (hne : text ≠ [])
    (hw : slip39WordForString (wordBuffer (text.takeWhile isLetter)) = some w) (rounds room : Nat) :
    readWords (rounds + 1) text (room + 1)
      = ((readWords rounds ((text.dropWhile isLetter).dropWhile fun c => !isLetter c) room).1.map
            (· + 1),
          w :: (readWords rounds ((text.dropWhile isLetter).dropWhile fun c => !isLetter c) room).2) := by
  rw [readWords, if_neg hne]
  simp only [hw]

theorem split_word_text {w : Nat} (hw : w < 1024) {next : List UInt8}
    (hnext : next.takeWhile isLetter = []) :
    (slip39StringForWord w ++ next).takeWhile isLetter = slip39StringForWord w
      ∧ (slip39StringForWord w ++ next).dropWhile isLetter = next := by
  obtain ⟨-, -, hletters⟩ := spelling_slip39StringForWord hw
  have hnext' : next.dropWhile isLetter = next := by
    have := List.takeWhile_append_dropWhile (p := isLetter) (l := next)
    rwa [hnext, List.nil_append] at this
  rw [List.takeWhile_append_of_pos hletters, List.dropWhile_append_of_pos hletters, hnext, hnext',
    List.append_nil]
  exact ⟨rfl, rfl⟩

theorem slip39StringsForWords_cons (w v : Nat) (words : List Nat) :
    slip39StringsForWords (w :: v :: words)
      = slip39StringForWord w ++ 32 :: slip39StringsForWords (v :: words) := by
  rw [slip39StringsForWords, slip39StringsForWords, List.map_cons, List.map_cons,
    List.intercalate_cons_cons, List.append_assoc, List.singleton_append]

theorem dropWhile_slip39StringsForWords {words : List Nat} (hwords : ∀ w ∈ words, w < 1024) :
    (slip39StringsForWords words).dropWhile (fun c => !isLetter c)
      = slip39StringsForWords words := by
  cases words with
  | nil => rfl
  | cons w words =>
    obtain ⟨hne, -, hletters⟩ := spelling_slip39StringForWord (hwords w (.head _))
    obtain ⟨c, rest, hc⟩ := List.exists_cons_of_ne_nil hne
    have htext : ∃ more, slip39StringsForWords (w :: words) = c :: more := by
      cases words with
      | nil => exact ⟨rest, by rw [← hc, slip39StringsForWords, List.map_singleton,
          List.intercalate_singleton]⟩
      | cons v words => exact ⟨_, by rw [slip39StringsForWords_cons, hc, List.cons_append]⟩
    obtain ⟨more, htext⟩ := htext
    have hletter := hletters c (hc ▸ (.head _))
    rw [htext, List.dropWhile_cons_of_neg (by rw [hletter]; decide)]

theorem readWords_slip39StringsForWords (words : List Nat) (hwords : ∀ w ∈ words, w < 1024) :
    ∀ (rounds room : Nat), words.length ≤ rounds → words.length ≤ room →
      readWords rounds (slip39StringsForWords words) room = (some words.length, words) := by
  induction words with
  | nil =>
    intro rounds room _ _
    cases rounds with
    | zero => rfl
    | succ rounds => rfl
  | cons w words ih =>
    intro rounds room hrounds hroom
    have hw := hwords w (.head _)
    rw [List.length_cons] at hrounds hroom
    obtain ⟨rounds, rfl⟩ : ∃ k, rounds = k + 1 := ⟨rounds - 1, by omega⟩
    obtain ⟨room, rfl⟩ : ∃ k, room = k + 1 := ⟨room - 1, by omega⟩
    have ih := ih (fun v hv => hwords v (List.mem_cons_of_mem w hv)) rounds room (by omega)
      (by omega)
    have hrest := fun v hv => hwords v (List.mem_cons_of_mem w hv)
    have hsplit : ∃ next, slip39StringsForWords (w :: words) = slip39StringForWord w ++ next
        ∧ next.takeWhile isLetter = []
        ∧ next.dropWhile (fun c => !isLetter c) = slip39StringsForWords words := by
      cases words with
      | nil => exact ⟨[], by rw [slip39StringsForWords, List.map_singleton,
          List.intercalate_singleton, List.append_nil], rfl, rfl⟩
      | cons v words =>
        refine ⟨32 :: slip39StringsForWords (v :: words), slip39StringsForWords_cons w v words,
          List.takeWhile_cons_of_neg (by decide), ?_⟩
        rw [List.dropWhile_cons_of_pos (by decide), dropWhile_slip39StringsForWords hrest]
    obtain ⟨next, htext, hnext, hdrop⟩ := hsplit
    obtain ⟨htake, htail⟩ := split_word_text hw hnext
    have hne : slip39StringForWord w ++ next ≠ [] := fun h =>
      (spelling_slip39StringForWord hw).1 (List.append_eq_nil_iff.mp h).1
    have hlook : slip39WordForString (wordBuffer ((slip39StringForWord w ++ next).takeWhile isLetter))
        = some w := by
      rw [htake, wordBuffer_slip39StringForWord hw]
      exact slip39WordForString_of_get (getElem?_slip39StringForWord hw)
    rw [htext, readWords_found hne hlook, htail, hdrop, ih]
    rfl

theorem length_slip39StringsForWords {words : List Nat} (hwords : ∀ w ∈ words, w < 1024) :
    words.length ≤ (slip39StringsForWords words).length := by
  induction words with
  | nil => exact Nat.zero_le _
  | cons w words ih =>
    have hpos := List.length_pos_iff.mpr (spelling_slip39StringForWord (hwords w (.head _))).1
    have ih := ih fun v hv => hwords v (List.mem_cons_of_mem w hv)
    cases words with
    | nil =>
      rw [slip39StringsForWords, List.map_singleton, List.intercalate_singleton]
      exact hpos
    | cons v words =>
      rw [List.length_cons] at ih
      rw [slip39StringsForWords_cons, List.length_append, List.length_cons, List.length_cons,
        List.length_cons]
      omega

theorem slip39WordsForStrings_slip39StringsForWords {words : List Nat}
    (hwords : ∀ w ∈ words, w < 1024) :
    slip39WordsForStrings (slip39StringsForWords words) words.length
      = (some words.length, words) := by
  exact readWords_slip39StringsForWords words hwords _ _ (length_slip39StringsForWords hwords)
    (Nat.le_refl _)

end Keystone3.Slip39
