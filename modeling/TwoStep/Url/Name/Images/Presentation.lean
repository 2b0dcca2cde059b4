import TwoStep.Url.Name.Images.Letters

/-!
# Images of presentation forms and CJK signs

The images of Hebrew and Arabic letters in the shape of their place, of
ligatures, of mathematical letters, of signs that are written in circles,
brackets and squares, and of half-width forms.
-/

set_option maxRecDepth 8000

namespace TwoStep.Url.Name

/-- The images of Hebrew and Arabic letters in the shape of their place, of
ligatures, and of mathematical letters. -/
def presentationImages : List Images := [
  ⟨0xfb13, [
    [0x574, 0x576], [0x574, 0x565], [0x574, 0x56b], [0x57e, 0x576], [0x574, 0x56d]]⟩,
  ⟨0xfb1d, [[0x5d9, 0x5b4]]⟩,
  ⟨0xfb1f, [
    [0x5f2, 0x5b7], [0x5e2], [0x5d0], [0x5d3], [0x5d4], [0x5db], [0x5dc], [0x5dd], [0x5e8],
    [0x5ea], [0x2b], [0x5e9, 0x5c1], [0x5e9, 0x5c2], [0x5e9, 0x5bc, 0x5c1],
    [0x5e9, 0x5bc, 0x5c2], [0x5d0, 0x5b7], [0x5d0, 0x5b8], [0x5d0, 0x5bc], [0x5d1, 0x5bc],
    [0x5d2, 0x5bc], [0x5d3, 0x5bc], [0x5d4, 0x5bc], [0x5d5, 0x5bc], [0x5d6, 0x5bc]]⟩,
  ⟨0xfb38, [
    [0x5d8, 0x5bc], [0x5d9, 0x5bc], [0x5da, 0x5bc], [0x5db, 0x5bc], [0x5dc, 0x5bc]]⟩,
  ⟨0xfb3e, [[0x5de, 0x5bc]]⟩, ⟨0xfb40, [[0x5e0, 0x5bc], [0x5e1, 0x5bc]]⟩,
  ⟨0xfb43, [[0x5e3, 0x5bc], [0x5e4, 0x5bc]]⟩,
  ⟨0xfb46, [
    [0x5e6, 0x5bc], [0x5e7, 0x5bc], [0x5e8, 0x5bc], [0x5e9, 0x5bc], [0x5ea, 0x5bc],
    [0x5d5, 0x5b9], [0x5d1, 0x5bf], [0x5db, 0x5bf], [0x5e4, 0x5bf], [0x5d0, 0x5dc], [0x671],
    [0x671], [0x67b], [0x67b], [0x67b], [0x67b], [0x67e], [0x67e], [0x67e], [0x67e], [0x680],
    [0x680], [0x680], [0x680], [0x67a], [0x67a], [0x67a], [0x67a], [0x67f], [0x67f], [0x67f],
    [0x67f], [0x679], [0x679], [0x679], [0x679], [0x6a4], [0x6a4], [0x6a4], [0x6a4], [0x6a6],
    [0x6a6], [0x6a6], [0x6a6], [0x684], [0x684], [0x684], [0x684], [0x683], [0x683], [0x683],
    [0x683], [0x686], [0x686], [0x686], [0x686], [0x687], [0x687], [0x687], [0x687], [0x68d],
    [0x68d], [0x68c], [0x68c], [0x68e], [0x68e], [0x688], [0x688], [0x698], [0x698], [0x691],
    [0x691], [0x6a9], [0x6a9], [0x6a9], [0x6a9], [0x6af], [0x6af], [0x6af], [0x6af], [0x6b3],
    [0x6b3], [0x6b3], [0x6b3], [0x6b1], [0x6b1], [0x6b1], [0x6b1], [0x6ba], [0x6ba], [0x6bb],
    [0x6bb], [0x6bb], [0x6bb], [0x6c0], [0x6c0], [0x6c1], [0x6c1], [0x6c1], [0x6c1], [0x6be],
    [0x6be], [0x6be], [0x6be], [0x6d2], [0x6d2], [0x6d3], [0x6d3]]⟩,
  ⟨0xfbd3, [
    [0x6ad], [0x6ad], [0x6ad], [0x6ad], [0x6c7], [0x6c7], [0x6c6], [0x6c6], [0x6c8], [0x6c8],
    [0x6c7, 0x674], [0x6cb], [0x6cb], [0x6c5], [0x6c5], [0x6c9], [0x6c9], [0x6d0], [0x6d0],
    [0x6d0], [0x6d0], [0x649], [0x649], [0x626, 0x627], [0x626, 0x627], [0x626, 0x6d5],
    [0x626, 0x6d5], [0x626, 0x648], [0x626, 0x648], [0x626, 0x6c7], [0x626, 0x6c7],
    [0x626, 0x6c6], [0x626, 0x6c6], [0x626, 0x6c8], [0x626, 0x6c8], [0x626, 0x6d0],
    [0x626, 0x6d0], [0x626, 0x6d0], [0x626, 0x649], [0x626, 0x649], [0x626, 0x649], [0x6cc],
    [0x6cc], [0x6cc], [0x6cc], [0x626, 0x62c], [0x626, 0x62d], [0x626, 0x645], [0x626, 0x649],
    [0x626, 0x64a], [0x628, 0x62c], [0x628, 0x62d], [0x628, 0x62e], [0x628, 0x645],
    [0x628, 0x649], [0x628, 0x64a], [0x62a, 0x62c], [0x62a, 0x62d], [0x62a, 0x62e],
    [0x62a, 0x645], [0x62a, 0x649], [0x62a, 0x64a], [0x62b, 0x62c], [0x62b, 0x645],
    [0x62b, 0x649], [0x62b, 0x64a], [0x62c, 0x62d], [0x62c, 0x645], [0x62d, 0x62c],
    [0x62d, 0x645], [0x62e, 0x62c], [0x62e, 0x62d], [0x62e, 0x645], [0x633, 0x62c],
    [0x633, 0x62d], [0x633, 0x62e], [0x633, 0x645], [0x635, 0x62d], [0x635, 0x645],
    [0x636, 0x62c], [0x636, 0x62d], [0x636, 0x62e], [0x636, 0x645], [0x637, 0x62d],
    [0x637, 0x645], [0x638, 0x645], [0x639, 0x62c], [0x639, 0x645], [0x63a, 0x62c],
    [0x63a, 0x645], [0x641, 0x62c], [0x641, 0x62d], [0x641, 0x62e], [0x641, 0x645],
    [0x641, 0x649], [0x641, 0x64a], [0x642, 0x62d], [0x642, 0x645], [0x642, 0x649],
    [0x642, 0x64a], [0x643, 0x627], [0x643, 0x62c], [0x643, 0x62d], [0x643, 0x62e],
    [0x643, 0x644], [0x643, 0x645], [0x643, 0x649], [0x643, 0x64a], [0x644, 0x62c],
    [0x644, 0x62d], [0x644, 0x62e], [0x644, 0x645], [0x644, 0x649], [0x644, 0x64a],
    [0x645, 0x62c], [0x645, 0x62d], [0x645, 0x62e], [0x645, 0x645], [0x645, 0x649],
    [0x645, 0x64a], [0x646, 0x62c], [0x646, 0x62d], [0x646, 0x62e], [0x646, 0x645],
    [0x646, 0x649], [0x646, 0x64a], [0x647, 0x62c], [0x647, 0x645], [0x647, 0x649],
    [0x647, 0x64a], [0x64a, 0x62c], [0x64a, 0x62d], [0x64a, 0x62e], [0x64a, 0x645],
    [0x64a, 0x649], [0x64a, 0x64a], [0x630, 0x670], [0x631, 0x670], [0x649, 0x670],
    [0x20, 0x64c, 0x651], [0x20, 0x64d, 0x651], [0x20, 0x64e, 0x651], [0x20, 0x64f, 0x651],
    [0x20, 0x650, 0x651], [0x20, 0x651, 0x670], [0x626, 0x631], [0x626, 0x632], [0x626, 0x645],
    [0x626, 0x646], [0x626, 0x649], [0x626, 0x64a], [0x628, 0x631], [0x628, 0x632],
    [0x628, 0x645], [0x628, 0x646], [0x628, 0x649], [0x628, 0x64a], [0x62a, 0x631],
    [0x62a, 0x632], [0x62a, 0x645], [0x62a, 0x646], [0x62a, 0x649], [0x62a, 0x64a],
    [0x62b, 0x631], [0x62b, 0x632], [0x62b, 0x645], [0x62b, 0x646], [0x62b, 0x649],
    [0x62b, 0x64a], [0x641, 0x649], [0x641, 0x64a], [0x642, 0x649], [0x642, 0x64a],
    [0x643, 0x627], [0x643, 0x644], [0x643, 0x645], [0x643, 0x649], [0x643, 0x64a],
    [0x644, 0x645], [0x644, 0x649], [0x644, 0x64a], [0x645, 0x627], [0x645, 0x645],
    [0x646, 0x631], [0x646, 0x632], [0x646, 0x645], [0x646, 0x646], [0x646, 0x649],
    [0x646, 0x64a], [0x649, 0x670], [0x64a, 0x631], [0x64a, 0x632], [0x64a, 0x645],
    [0x64a, 0x646], [0x64a, 0x649], [0x64a, 0x64a], [0x626, 0x62c], [0x626, 0x62d],
    [0x626, 0x62e], [0x626, 0x645], [0x626, 0x647], [0x628, 0x62c], [0x628, 0x62d],
    [0x628, 0x62e], [0x628, 0x645], [0x628, 0x647], [0x62a, 0x62c], [0x62a, 0x62d],
    [0x62a, 0x62e], [0x62a, 0x645], [0x62a, 0x647], [0x62b, 0x645], [0x62c, 0x62d],
    [0x62c, 0x645], [0x62d, 0x62c], [0x62d, 0x645], [0x62e, 0x62c], [0x62e, 0x645],
    [0x633, 0x62c], [0x633, 0x62d], [0x633, 0x62e], [0x633, 0x645], [0x635, 0x62d],
    [0x635, 0x62e], [0x635, 0x645], [0x636, 0x62c], [0x636, 0x62d], [0x636, 0x62e],
    [0x636, 0x645], [0x637, 0x62d], [0x638, 0x645], [0x639, 0x62c], [0x639, 0x645],
    [0x63a, 0x62c], [0x63a, 0x645], [0x641, 0x62c], [0x641, 0x62d], [0x641, 0x62e],
    [0x641, 0x645], [0x642, 0x62d], [0x642, 0x645], [0x643, 0x62c], [0x643, 0x62d],
    [0x643, 0x62e], [0x643, 0x644], [0x643, 0x645], [0x644, 0x62c], [0x644, 0x62d],
    [0x644, 0x62e], [0x644, 0x645], [0x644, 0x647], [0x645, 0x62c], [0x645, 0x62d],
    [0x645, 0x62e], [0x645, 0x645], [0x646, 0x62c], [0x646, 0x62d], [0x646, 0x62e],
    [0x646, 0x645], [0x646, 0x647], [0x647, 0x62c], [0x647, 0x645], [0x647, 0x670],
    [0x64a, 0x62c], [0x64a, 0x62d], [0x64a, 0x62e], [0x64a, 0x645], [0x64a, 0x647],
    [0x626, 0x645], [0x626, 0x647], [0x628, 0x645], [0x628, 0x647], [0x62a, 0x645],
    [0x62a, 0x647], [0x62b, 0x645], [0x62b, 0x647], [0x633, 0x645], [0x633, 0x647],
    [0x634, 0x645], [0x634, 0x647], [0x643, 0x644], [0x643, 0x645], [0x644, 0x645],
    [0x646, 0x645], [0x646, 0x647], [0x64a, 0x645], [0x64a, 0x647], [0x640, 0x64e, 0x651],
    [0x640, 0x64f, 0x651], [0x640, 0x650, 0x651], [0x637, 0x649], [0x637, 0x64a], [0x639, 0x649],
    [0x639, 0x64a], [0x63a, 0x649], [0x63a, 0x64a], [0x633, 0x649], [0x633, 0x64a],
    [0x634, 0x649], [0x634, 0x64a], [0x62d, 0x649], [0x62d, 0x64a], [0x62c, 0x649],
    [0x62c, 0x64a], [0x62e, 0x649], [0x62e, 0x64a], [0x635, 0x649], [0x635, 0x64a],
    [0x636, 0x649], [0x636, 0x64a], [0x634, 0x62c], [0x634, 0x62d], [0x634, 0x62e],
    [0x634, 0x645], [0x634, 0x631], [0x633, 0x631], [0x635, 0x631], [0x636, 0x631],
    [0x637, 0x649], [0x637, 0x64a], [0x639, 0x649], [0x639, 0x64a], [0x63a, 0x649],
    [0x63a, 0x64a], [0x633, 0x649], [0x633, 0x64a], [0x634, 0x649], [0x634, 0x64a],
    [0x62d, 0x649], [0x62d, 0x64a], [0x62c, 0x649], [0x62c, 0x64a], [0x62e, 0x649],
    [0x62e, 0x64a], [0x635, 0x649], [0x635, 0x64a], [0x636, 0x649], [0x636, 0x64a],
    [0x634, 0x62c], [0x634, 0x62d], [0x634, 0x62e], [0x634, 0x645], [0x634, 0x631],
    [0x633, 0x631], [0x635, 0x631], [0x636, 0x631], [0x634, 0x62c], [0x634, 0x62d],
    [0x634, 0x62e], [0x634, 0x645], [0x633, 0x647], [0x634, 0x647], [0x637, 0x645],
    [0x633, 0x62c], [0x633, 0x62d], [0x633, 0x62e], [0x634, 0x62c], [0x634, 0x62d],
    [0x634, 0x62e], [0x637, 0x645], [0x638, 0x645], [0x627, 0x64b], [0x627, 0x64b]]⟩,
  ⟨0xfd50, [
    [0x62a, 0x62c, 0x645], [0x62a, 0x62d, 0x62c], [0x62a, 0x62d, 0x62c], [0x62a, 0x62d, 0x645],
    [0x62a, 0x62e, 0x645], [0x62a, 0x645, 0x62c], [0x62a, 0x645, 0x62d], [0x62a, 0x645, 0x62e],
    [0x62c, 0x645, 0x62d], [0x62c, 0x645, 0x62d], [0x62d, 0x645, 0x64a], [0x62d, 0x645, 0x649],
    [0x633, 0x62d, 0x62c], [0x633, 0x62c, 0x62d], [0x633, 0x62c, 0x649], [0x633, 0x645, 0x62d],
    [0x633, 0x645, 0x62d], [0x633, 0x645, 0x62c], [0x633, 0x645, 0x645], [0x633, 0x645, 0x645],
    [0x635, 0x62d, 0x62d], [0x635, 0x62d, 0x62d], [0x635, 0x645, 0x645], [0x634, 0x62d, 0x645],
    [0x634, 0x62d, 0x645], [0x634, 0x62c, 0x64a], [0x634, 0x645, 0x62e], [0x634, 0x645, 0x62e],
    [0x634, 0x645, 0x645], [0x634, 0x645, 0x645], [0x636, 0x62d, 0x649], [0x636, 0x62e, 0x645],
    [0x636, 0x62e, 0x645], [0x637, 0x645, 0x62d], [0x637, 0x645, 0x62d], [0x637, 0x645, 0x645],
    [0x637, 0x645, 0x64a], [0x639, 0x62c, 0x645], [0x639, 0x645, 0x645], [0x639, 0x645, 0x645],
    [0x639, 0x645, 0x649], [0x63a, 0x645, 0x645], [0x63a, 0x645, 0x64a], [0x63a, 0x645, 0x649],
    [0x641, 0x62e, 0x645], [0x641, 0x62e, 0x645], [0x642, 0x645, 0x62d], [0x642, 0x645, 0x645],
    [0x644, 0x62d, 0x645], [0x644, 0x62d, 0x64a], [0x644, 0x62d, 0x649], [0x644, 0x62c, 0x62c],
    [0x644, 0x62c, 0x62c], [0x644, 0x62e, 0x645], [0x644, 0x62e, 0x645], [0x644, 0x645, 0x62d],
    [0x644, 0x645, 0x62d], [0x645, 0x62d, 0x62c], [0x645, 0x62d, 0x645], [0x645, 0x62d, 0x64a],
    [0x645, 0x62c, 0x62d], [0x645, 0x62c, 0x645], [0x645, 0x62e, 0x62c], [0x645, 0x62e, 0x645]]⟩,
  ⟨0xfd92, [
    [0x645, 0x62c, 0x62e], [0x647, 0x645, 0x62c], [0x647, 0x645, 0x645], [0x646, 0x62d, 0x645],
    [0x646, 0x62d, 0x649], [0x646, 0x62c, 0x645], [0x646, 0x62c, 0x645], [0x646, 0x62c, 0x649],
    [0x646, 0x645, 0x64a], [0x646, 0x645, 0x649], [0x64a, 0x645, 0x645], [0x64a, 0x645, 0x645],
    [0x628, 0x62e, 0x64a], [0x62a, 0x62c, 0x64a], [0x62a, 0x62c, 0x649], [0x62a, 0x62e, 0x64a],
    [0x62a, 0x62e, 0x649], [0x62a, 0x645, 0x64a], [0x62a, 0x645, 0x649], [0x62c, 0x645, 0x64a],
    [0x62c, 0x62d, 0x649], [0x62c, 0x645, 0x649], [0x633, 0x62e, 0x649], [0x635, 0x62d, 0x64a],
    [0x634, 0x62d, 0x64a], [0x636, 0x62d, 0x64a], [0x644, 0x62c, 0x64a], [0x644, 0x645, 0x64a],
    [0x64a, 0x62d, 0x64a], [0x64a, 0x62c, 0x64a], [0x64a, 0x645, 0x64a], [0x645, 0x645, 0x64a],
    [0x642, 0x645, 0x64a], [0x646, 0x62d, 0x64a], [0x642, 0x645, 0x62d], [0x644, 0x62d, 0x645],
    [0x639, 0x645, 0x64a], [0x643, 0x645, 0x64a], [0x646, 0x62c, 0x62d], [0x645, 0x62e, 0x64a],
    [0x644, 0x62c, 0x645], [0x643, 0x645, 0x645], [0x644, 0x62c, 0x645], [0x646, 0x62c, 0x62d],
    [0x62c, 0x62d, 0x64a], [0x62d, 0x62c, 0x64a], [0x645, 0x62c, 0x64a], [0x641, 0x645, 0x64a],
    [0x628, 0x62d, 0x64a], [0x643, 0x645, 0x645], [0x639, 0x62c, 0x645], [0x635, 0x645, 0x645],
    [0x633, 0x62e, 0x64a], [0x646, 0x62c, 0x64a]]⟩,
  ⟨0xfdf0, [
    [0x635, 0x644, 0x6d2], [0x642, 0x644, 0x6d2], [0x627, 0x644, 0x644, 0x647],
    [0x627, 0x643, 0x628, 0x631], [0x645, 0x62d, 0x645, 0x62f], [0x635, 0x644, 0x639, 0x645],
    [0x631, 0x633, 0x648, 0x644], [0x639, 0x644, 0x64a, 0x647], [0x648, 0x633, 0x644, 0x645],
    [0x635, 0x644, 0x649],
    [0x635, 0x644, 0x649, 0x20, 0x627, 0x644, 0x644, 0x647, 0x20, 0x639, 0x644, 0x64a,
      0x647, 0x20, 0x648, 0x633, 0x644, 0x645],
    [0x62c, 0x644, 0x20, 0x62c, 0x644, 0x627, 0x644, 0x647], [0x631, 0x6cc, 0x627, 0x644]]⟩,
  ⟨0xfe70, [[0x20, 0x64b], [0x640, 0x64b], [0x20, 0x64c]]⟩, ⟨0xfe74, [[0x20, 0x64d]]⟩,
  ⟨0xfe76, [
    [0x20, 0x64e], [0x640, 0x64e], [0x20, 0x64f], [0x640, 0x64f], [0x20, 0x650], [0x640, 0x650],
    [0x20, 0x651], [0x640, 0x651], [0x20, 0x652], [0x640, 0x652], [0x621], [0x622], [0x622],
    [0x623], [0x623], [0x624], [0x624], [0x625], [0x625], [0x626], [0x626], [0x626], [0x626],
    [0x627], [0x627], [0x628], [0x628], [0x628], [0x628], [0x629], [0x629], [0x62a], [0x62a],
    [0x62a], [0x62a], [0x62b], [0x62b], [0x62b], [0x62b], [0x62c], [0x62c], [0x62c], [0x62c],
    [0x62d], [0x62d], [0x62d], [0x62d], [0x62e], [0x62e], [0x62e], [0x62e], [0x62f], [0x62f],
    [0x630], [0x630], [0x631], [0x631], [0x632], [0x632], [0x633], [0x633], [0x633], [0x633],
    [0x634], [0x634], [0x634], [0x634], [0x635], [0x635], [0x635], [0x635], [0x636], [0x636],
    [0x636], [0x636], [0x637], [0x637], [0x637], [0x637], [0x638], [0x638], [0x638], [0x638],
    [0x639], [0x639], [0x639], [0x639], [0x63a], [0x63a], [0x63a], [0x63a], [0x641], [0x641],
    [0x641], [0x641], [0x642], [0x642], [0x642], [0x642], [0x643], [0x643], [0x643], [0x643],
    [0x644], [0x644], [0x644], [0x644], [0x645], [0x645], [0x645], [0x645], [0x646], [0x646],
    [0x646], [0x646], [0x647], [0x647], [0x647], [0x647], [0x648], [0x648], [0x649], [0x649],
    [0x64a], [0x64a], [0x64a], [0x64a], [0x644, 0x622], [0x644, 0x622], [0x644, 0x623],
    [0x644, 0x623], [0x644, 0x625], [0x644, 0x625], [0x644, 0x627], [0x644, 0x627]]⟩,
  ⟨0x1058d, [[0x105b4]]⟩, ⟨0x1058f, [[0x105b6]]⟩, ⟨0x10591, [[0x105b8]]⟩, ⟨0x10595, [[0x105bc]]⟩,
  ⟨0x10781, [[0x2d0], [0x2d1], [0xe6], [0x299], [0x253]]⟩,
  ⟨0x10787, [
    [0x2a3], [0xab66], [0x2a5], [0x2a4], [0x256], [0x257], [0x1d91], [0x258], [0x25e], [0x2a9],
    [0x264], [0x262], [0x260], [0x29b], [0x127], [0x29c], [0x267], [0x284], [0x2aa], [0x2ab],
    [0x26c], [0x1df04], [0xa78e], [0x26e], [0x1df05], [0x28e], [0x1df06], [0xf8], [0x276],
    [0x277], [0x71], [0x27a], [0x1df08], [0x27d], [0x27e], [0x280], [0x2a8], [0x2a6], [0xab67],
    [0x2a7], [0x288], [0x2c71]]⟩,
  ⟨0x107b2, [
    [0x28f], [0x2a1], [0x2a2], [0x298], [0x1c0], [0x1c1], [0x1c2], [0x1df0a], [0x1df1e]]⟩,
  ⟨0x1d15e, [
    [0x1d157, 0x1d165], [0x1d158, 0x1d165], [0x1d158, 0x1d165, 0x1d16e],
    [0x1d158, 0x1d165, 0x1d16f], [0x1d158, 0x1d165, 0x1d170], [0x1d158, 0x1d165, 0x1d171],
    [0x1d158, 0x1d165, 0x1d172]]⟩,
  ⟨0x1d1bb, [
    [0x1d1b9, 0x1d165], [0x1d1ba, 0x1d165], [0x1d1b9, 0x1d165, 0x1d16e],
    [0x1d1ba, 0x1d165, 0x1d16e], [0x1d1b9, 0x1d165, 0x1d16f], [0x1d1ba, 0x1d165, 0x1d16f]]⟩,
  ⟨0x1d44f, [[0x62]]⟩, ⟨0x1d451, [[0x64]]⟩, ⟨0x1d453, [[0x66]]⟩, ⟨0x1d49c, [[0x61]]⟩,
  ⟨0x1d49e, [[0x63], [0x64]]⟩, ⟨0x1d4a2, [[0x67]]⟩, ⟨0x1d4a5, [[0x6a], [0x6b]]⟩,
  ⟨0x1d4be, [[0x69]]⟩, ⟨0x1d4c0, [[0x6b]]⟩, ⟨0x1d4c2, [[0x6d]]⟩, ⟨0x1d504, [[0x61], [0x62]]⟩,
  ⟨0x1d538, [[0x61], [0x62]]⟩, ⟨0x1d546, [[0x6f]]⟩, ⟨0x1d6a4, [[0x131], [0x237]]⟩,
  ⟨0x1d6b9, [[0x3b8]]⟩, ⟨0x1d6c1, [[0x2207]]⟩, ⟨0x1d6d3, [[0x3c3]]⟩,
  ⟨0x1d6db, [[0x2202], [0x3b5], [0x3b8], [0x3ba], [0x3c6], [0x3c1], [0x3c0]]⟩,
  ⟨0x1d6f3, [[0x3b8]]⟩, ⟨0x1d6fb, [[0x2207]]⟩, ⟨0x1d70d, [[0x3c3]]⟩,
  ⟨0x1d715, [[0x2202], [0x3b5], [0x3b8], [0x3ba], [0x3c6], [0x3c1], [0x3c0]]⟩,
  ⟨0x1d72d, [[0x3b8]]⟩, ⟨0x1d735, [[0x2207]]⟩, ⟨0x1d747, [[0x3c3]]⟩,
  ⟨0x1d74f, [[0x2202], [0x3b5], [0x3b8], [0x3ba], [0x3c6], [0x3c1], [0x3c0]]⟩,
  ⟨0x1d767, [[0x3b8]]⟩, ⟨0x1d76f, [[0x2207]]⟩, ⟨0x1d781, [[0x3c3]]⟩,
  ⟨0x1d789, [[0x2202], [0x3b5], [0x3b8], [0x3ba], [0x3c6], [0x3c1], [0x3c0]]⟩,
  ⟨0x1d7a1, [[0x3b8]]⟩, ⟨0x1d7a9, [[0x2207]]⟩, ⟨0x1d7bb, [[0x3c3]]⟩,
  ⟨0x1d7c3, [
    [0x2202], [0x3b5], [0x3b8], [0x3ba], [0x3c6], [0x3c1], [0x3c0], [0x3dd], [0x3dd]]⟩,
  ⟨0x1e039, [[0x43a], [0x43b], [0x43c]]⟩,
  ⟨0x1e047, [
    [0x44b], [0x44d], [0x44e], [0xa689], [0x4d9], [0x456], [0x458], [0x4e9], [0x4af], [0x4cf]]⟩,
  ⟨0x1e05a, [[0x43a], [0x43b], [0x43e], [0x43f], [0x441]]⟩,
  ⟨0x1e065, [
    [0x44a], [0x44b], [0x491], [0x456], [0x455], [0x45f], [0x4ab], [0xa651], [0x4b1]]⟩,
  ⟨0x1ee00, [[0x627], [0x628], [0x62c], [0x62f]]⟩,
  ⟨0x1ee05, [[0x648], [0x632], [0x62d], [0x637], [0x64a]]⟩,
  ⟨0x1ee0e, [
    [0x633], [0x639], [0x641], [0x635], [0x642], [0x631], [0x634], [0x62a], [0x62b], [0x62e],
    [0x630], [0x636], [0x638], [0x63a], [0x66e], [0x6ba], [0x6a1], [0x66f]]⟩,
  ⟨0x1ee21, [[0x628], [0x62c]]⟩, ⟨0x1ee24, [[0x647]]⟩, ⟨0x1ee27, [[0x62d]]⟩,
  ⟨0x1ee29, [[0x64a]]⟩, ⟨0x1ee2e, [[0x633], [0x639], [0x641], [0x635], [0x642]]⟩,
  ⟨0x1ee34, [[0x634], [0x62a], [0x62b], [0x62e]]⟩, ⟨0x1ee39, [[0x636]]⟩, ⟨0x1ee3b, [[0x63a]]⟩,
  ⟨0x1ee42, [[0x62c]]⟩, ⟨0x1ee47, [[0x62d]]⟩, ⟨0x1ee49, [[0x64a]]⟩, ⟨0x1ee4b, [[0x644]]⟩,
  ⟨0x1ee4d, [[0x646], [0x633], [0x639]]⟩, ⟨0x1ee51, [[0x635], [0x642]]⟩, ⟨0x1ee54, [[0x634]]⟩,
  ⟨0x1ee57, [[0x62e]]⟩, ⟨0x1ee59, [[0x636]]⟩, ⟨0x1ee5b, [[0x63a]]⟩, ⟨0x1ee5d, [[0x6ba]]⟩,
  ⟨0x1ee5f, [[0x66f]]⟩, ⟨0x1ee61, [[0x628], [0x62c]]⟩, ⟨0x1ee64, [[0x647]]⟩,
  ⟨0x1ee67, [[0x62d], [0x637], [0x64a], [0x643]]⟩,
  ⟨0x1ee6c, [[0x645], [0x646], [0x633], [0x639], [0x641], [0x635], [0x642]]⟩,
  ⟨0x1ee74, [[0x634], [0x62a], [0x62b], [0x62e]]⟩,
  ⟨0x1ee79, [[0x636], [0x638], [0x63a], [0x66e]]⟩, ⟨0x1ee7e, [[0x6a1]]⟩,
  ⟨0x1ee80, [
    [0x627], [0x628], [0x62c], [0x62f], [0x647], [0x648], [0x632], [0x62d], [0x637], [0x64a]]⟩,
  ⟨0x1ee8b, [
    [0x644], [0x645], [0x646], [0x633], [0x639], [0x641], [0x635], [0x642], [0x631], [0x634],
    [0x62a], [0x62b], [0x62e], [0x630], [0x636], [0x638], [0x63a]]⟩,
  ⟨0x1eea1, [[0x628], [0x62c], [0x62f]]⟩,
  ⟨0x1eea5, [[0x648], [0x632], [0x62d], [0x637], [0x64a]]⟩,
  ⟨0x1eeab, [
    [0x644], [0x645], [0x646], [0x633], [0x639], [0x641], [0x635], [0x642], [0x631], [0x634],
    [0x62a], [0x62b], [0x62e], [0x630], [0x636], [0x638], [0x63a]]⟩]

/-- The images of signs that are written in circles, brackets and squares, and
of half-width forms. -/
def squareImages : List Images := [
  ⟨0x3000, [[0x20]]⟩, ⟨0x3002, [[0x2e]]⟩, ⟨0x3036, [[0x3012]]⟩,
  ⟨0x3038, [[0x5341], [0x5344], [0x5345]]⟩, ⟨0x309b, [[0x20, 0x3099], [0x20, 0x309a]]⟩,
  ⟨0x309f, [[0x3088, 0x308a]]⟩, ⟨0x30ff, [[0x30b3, 0x30c8]]⟩,
  ⟨0x3131, [
    [0x1100], [0x1101], [0x11aa], [0x1102], [0x11ac], [0x11ad], [0x1103], [0x1104], [0x1105]]⟩,
  ⟨0x3140, [[0x111a], [0x1106], [0x1107], [0x1108], [0x1121]]⟩,
  ⟨0x3165, [
    [0x1114], [0x1115], [0x11c7], [0x11c8], [0x11cc], [0x11ce], [0x11d3], [0x11d7], [0x11d9],
    [0x111c], [0x11dd], [0x11df], [0x111d], [0x111e], [0x1120], [0x1122], [0x1123], [0x1127],
    [0x1129]]⟩,
  ⟨0x317d, [
    [0x1132], [0x1136], [0x1140], [0x1147], [0x114c], [0x11f1], [0x11f2], [0x1157], [0x1158],
    [0x1159], [0x1184], [0x1185], [0x1188], [0x1191], [0x1192], [0x1194], [0x119e], [0x11a1]]⟩,
  ⟨0x3192, [
    [0x4e00], [0x4e8c], [0x4e09], [0x56db], [0x4e0a], [0x4e2d], [0x4e0b], [0x7532], [0x4e59],
    [0x4e19], [0x4e01], [0x5929], [0x5730], [0x4eba]]⟩,
  ⟨0x3200, [
    [0x28, 0x1100, 0x29], [0x28, 0x1102, 0x29], [0x28, 0x1103, 0x29], [0x28, 0x1105, 0x29],
    [0x28, 0x1106, 0x29], [0x28, 0x1107, 0x29], [0x28, 0x1109, 0x29], [0x28, 0x110b, 0x29],
    [0x28, 0x110c, 0x29], [0x28, 0x110e, 0x29], [0x28, 0x110f, 0x29], [0x28, 0x1110, 0x29],
    [0x28, 0x1111, 0x29], [0x28, 0x1112, 0x29], [0x28, 0xac00, 0x29], [0x28, 0xb098, 0x29],
    [0x28, 0xb2e4, 0x29], [0x28, 0xb77c, 0x29], [0x28, 0xb9c8, 0x29], [0x28, 0xbc14, 0x29],
    [0x28, 0xc0ac, 0x29], [0x28, 0xc544, 0x29], [0x28, 0xc790, 0x29], [0x28, 0xcc28, 0x29],
    [0x28, 0xce74, 0x29], [0x28, 0xd0c0, 0x29], [0x28, 0xd30c, 0x29], [0x28, 0xd558, 0x29],
    [0x28, 0xc8fc, 0x29], [0x28, 0xc624, 0xc804, 0x29], [0x28, 0xc624, 0xd6c4, 0x29]]⟩,
  ⟨0x3220, [
    [0x28, 0x4e00, 0x29], [0x28, 0x4e8c, 0x29], [0x28, 0x4e09, 0x29], [0x28, 0x56db, 0x29],
    [0x28, 0x4e94, 0x29], [0x28, 0x516d, 0x29], [0x28, 0x4e03, 0x29], [0x28, 0x516b, 0x29],
    [0x28, 0x4e5d, 0x29], [0x28, 0x5341, 0x29], [0x28, 0x6708, 0x29], [0x28, 0x706b, 0x29],
    [0x28, 0x6c34, 0x29], [0x28, 0x6728, 0x29], [0x28, 0x91d1, 0x29], [0x28, 0x571f, 0x29],
    [0x28, 0x65e5, 0x29], [0x28, 0x682a, 0x29], [0x28, 0x6709, 0x29], [0x28, 0x793e, 0x29],
    [0x28, 0x540d, 0x29], [0x28, 0x7279, 0x29], [0x28, 0x8ca1, 0x29], [0x28, 0x795d, 0x29],
    [0x28, 0x52b4, 0x29], [0x28, 0x4ee3, 0x29], [0x28, 0x547c, 0x29], [0x28, 0x5b66, 0x29],
    [0x28, 0x76e3, 0x29], [0x28, 0x4f01, 0x29], [0x28, 0x8cc7, 0x29], [0x28, 0x5354, 0x29],
    [0x28, 0x796d, 0x29], [0x28, 0x4f11, 0x29], [0x28, 0x81ea, 0x29], [0x28, 0x81f3, 0x29],
    [0x554f], [0x5e7c], [0x6587], [0x7b8f]]⟩,
  ⟨0x3250, [
    [0x70, 0x74, 0x65], [0x32, 0x31], [0x32, 0x32], [0x32, 0x33], [0x32, 0x34], [0x32, 0x35],
    [0x32, 0x36], [0x32, 0x37], [0x32, 0x38], [0x32, 0x39], [0x33, 0x30], [0x33, 0x31],
    [0x33, 0x32], [0x33, 0x33], [0x33, 0x34], [0x33, 0x35], [0x1100], [0x1102], [0x1103],
    [0x1105], [0x1106], [0x1107], [0x1109], [0x110b], [0x110c]]⟩,
  ⟨0x326e, [
    [0xac00], [0xb098], [0xb2e4], [0xb77c], [0xb9c8], [0xbc14], [0xc0ac], [0xc544], [0xc790],
    [0xcc28], [0xce74], [0xd0c0], [0xd30c], [0xd558], [0xcc38, 0xace0], [0xc8fc, 0xc758],
    [0xc6b0]]⟩,
  ⟨0x3280, [
    [0x4e00], [0x4e8c], [0x4e09], [0x56db], [0x4e94], [0x516d], [0x4e03], [0x516b], [0x4e5d],
    [0x5341], [0x6708], [0x706b], [0x6c34], [0x6728], [0x91d1], [0x571f], [0x65e5], [0x682a],
    [0x6709], [0x793e], [0x540d], [0x7279], [0x8ca1], [0x795d], [0x52b4], [0x79d8], [0x7537],
    [0x5973], [0x9069], [0x512a], [0x5370], [0x6ce8], [0x9805], [0x4f11], [0x5199], [0x6b63],
    [0x4e0a], [0x4e2d], [0x4e0b], [0x5de6], [0x53f3], [0x533b], [0x5b97], [0x5b66], [0x76e3],
    [0x4f01], [0x8cc7], [0x5354], [0x591c], [0x33, 0x36], [0x33, 0x37], [0x33, 0x38],
    [0x33, 0x39], [0x34, 0x30], [0x34, 0x31], [0x34, 0x32], [0x34, 0x33], [0x34, 0x34],
    [0x34, 0x35], [0x34, 0x36], [0x34, 0x37], [0x34, 0x38], [0x34, 0x39], [0x35, 0x30],
    [0x31, 0x6708], [0x32, 0x6708], [0x33, 0x6708], [0x34, 0x6708], [0x35, 0x6708],
    [0x36, 0x6708], [0x37, 0x6708], [0x38, 0x6708], [0x39, 0x6708], [0x31, 0x30, 0x6708],
    [0x31, 0x31, 0x6708], [0x31, 0x32, 0x6708], [0x68, 0x67], [0x65, 0x72, 0x67], [0x65, 0x76],
    [0x6c, 0x74, 0x64], [0x30a2], [0x30a4], [0x30a6], [0x30a8], [0x30aa], [0x30ab], [0x30ad],
    [0x30af], [0x30b1], [0x30b3], [0x30b5], [0x30b7], [0x30b9], [0x30bb], [0x30bd], [0x30bf],
    [0x30c1], [0x30c4], [0x30c6], [0x30c8]]⟩,
  ⟨0x32ea, [[0x30d2], [0x30d5], [0x30d8], [0x30db]]⟩, ⟨0x32f3, [[0x30e4], [0x30e6]]⟩,
  ⟨0x32ff, [
    [0x4ee4, 0x548c], [0x30a2, 0x30d1, 0x30fc, 0x30c8], [0x30a2, 0x30eb, 0x30d5, 0x30a1],
    [0x30a2, 0x30f3, 0x30da, 0x30a2], [0x30a2, 0x30fc, 0x30eb], [0x30a4, 0x30cb, 0x30f3, 0x30b0],
    [0x30a4, 0x30f3, 0x30c1], [0x30a6, 0x30a9, 0x30f3], [0x30a8, 0x30b9, 0x30af, 0x30fc, 0x30c9],
    [0x30a8, 0x30fc, 0x30ab, 0x30fc], [0x30aa, 0x30f3, 0x30b9], [0x30aa, 0x30fc, 0x30e0],
    [0x30ab, 0x30a4, 0x30ea], [0x30ab, 0x30e9, 0x30c3, 0x30c8], [0x30ab, 0x30ed, 0x30ea, 0x30fc],
    [0x30ac, 0x30ed, 0x30f3], [0x30ac, 0x30f3, 0x30de], [0x30ae, 0x30ac],
    [0x30ae, 0x30cb, 0x30fc], [0x30ad, 0x30e5, 0x30ea, 0x30fc], [0x30ae, 0x30eb, 0x30c0, 0x30fc],
    [0x30ad, 0x30ed], [0x30ad, 0x30ed, 0x30b0, 0x30e9, 0x30e0],
    [0x30ad, 0x30ed, 0x30e1, 0x30fc, 0x30c8, 0x30eb], [0x30ad, 0x30ed, 0x30ef, 0x30c3, 0x30c8],
    [0x30b0, 0x30e9, 0x30e0], [0x30b0, 0x30e9, 0x30e0, 0x30c8, 0x30f3],
    [0x30af, 0x30eb, 0x30bc, 0x30a4, 0x30ed], [0x30af, 0x30ed, 0x30fc, 0x30cd],
    [0x30b1, 0x30fc, 0x30b9], [0x30b3, 0x30eb, 0x30ca], [0x30b3, 0x30fc, 0x30dd],
    [0x30b5, 0x30a4, 0x30af, 0x30eb], [0x30b5, 0x30f3, 0x30c1, 0x30fc, 0x30e0],
    [0x30b7, 0x30ea, 0x30f3, 0x30b0], [0x30bb, 0x30f3, 0x30c1], [0x30bb, 0x30f3, 0x30c8],
    [0x30c0, 0x30fc, 0x30b9], [0x30c7, 0x30b7], [0x30c9, 0x30eb], [0x30c8, 0x30f3],
    [0x30ca, 0x30ce], [0x30ce, 0x30c3, 0x30c8], [0x30cf, 0x30a4, 0x30c4],
    [0x30d1, 0x30fc, 0x30bb, 0x30f3, 0x30c8], [0x30d1, 0x30fc, 0x30c4],
    [0x30d0, 0x30fc, 0x30ec, 0x30eb], [0x30d4, 0x30a2, 0x30b9, 0x30c8, 0x30eb],
    [0x30d4, 0x30af, 0x30eb], [0x30d4, 0x30b3], [0x30d3, 0x30eb],
    [0x30d5, 0x30a1, 0x30e9, 0x30c3, 0x30c9], [0x30d5, 0x30a3, 0x30fc, 0x30c8],
    [0x30d6, 0x30c3, 0x30b7, 0x30a7, 0x30eb], [0x30d5, 0x30e9, 0x30f3],
    [0x30d8, 0x30af, 0x30bf, 0x30fc, 0x30eb], [0x30da, 0x30bd], [0x30da, 0x30cb, 0x30d2],
    [0x30d8, 0x30eb, 0x30c4], [0x30da, 0x30f3, 0x30b9], [0x30da, 0x30fc, 0x30b8],
    [0x30d9, 0x30fc, 0x30bf], [0x30dd, 0x30a4, 0x30f3, 0x30c8], [0x30dc, 0x30eb, 0x30c8],
    [0x30db, 0x30f3], [0x30dd, 0x30f3, 0x30c9], [0x30db, 0x30fc, 0x30eb],
    [0x30db, 0x30fc, 0x30f3], [0x30de, 0x30a4, 0x30af, 0x30ed], [0x30de, 0x30a4, 0x30eb],
    [0x30de, 0x30c3, 0x30cf], [0x30de, 0x30eb, 0x30af], [0x30de, 0x30f3, 0x30b7, 0x30e7, 0x30f3],
    [0x30df, 0x30af, 0x30ed, 0x30f3], [0x30df, 0x30ea], [0x30df, 0x30ea, 0x30d0, 0x30fc, 0x30eb],
    [0x30e1, 0x30ac], [0x30e1, 0x30ac, 0x30c8, 0x30f3], [0x30e1, 0x30fc, 0x30c8, 0x30eb],
    [0x30e4, 0x30fc, 0x30c9], [0x30e4, 0x30fc, 0x30eb], [0x30e6, 0x30a2, 0x30f3],
    [0x30ea, 0x30c3, 0x30c8, 0x30eb], [0x30ea, 0x30e9], [0x30eb, 0x30d4, 0x30fc],
    [0x30eb, 0x30fc, 0x30d6, 0x30eb], [0x30ec, 0x30e0], [0x30ec, 0x30f3, 0x30c8, 0x30b2, 0x30f3],
    [0x30ef, 0x30c3, 0x30c8], [0x30, 0x70b9], [0x31, 0x70b9], [0x32, 0x70b9], [0x33, 0x70b9],
    [0x34, 0x70b9], [0x35, 0x70b9], [0x36, 0x70b9], [0x37, 0x70b9], [0x38, 0x70b9],
    [0x39, 0x70b9], [0x31, 0x30, 0x70b9], [0x31, 0x31, 0x70b9], [0x31, 0x32, 0x70b9],
    [0x31, 0x33, 0x70b9], [0x31, 0x34, 0x70b9], [0x31, 0x35, 0x70b9], [0x31, 0x36, 0x70b9],
    [0x31, 0x37, 0x70b9], [0x31, 0x38, 0x70b9], [0x31, 0x39, 0x70b9], [0x32, 0x30, 0x70b9],
    [0x32, 0x31, 0x70b9], [0x32, 0x32, 0x70b9], [0x32, 0x33, 0x70b9], [0x32, 0x34, 0x70b9],
    [0x68, 0x70, 0x61], [0x64, 0x61], [0x61, 0x75], [0x62, 0x61, 0x72], [0x6f, 0x76],
    [0x70, 0x63], [0x64, 0x6d], [0x64, 0x6d, 0x32], [0x64, 0x6d, 0x33], [0x69, 0x75],
    [0x5e73, 0x6210], [0x662d, 0x548c], [0x5927, 0x6b63], [0x660e, 0x6cbb],
    [0x682a, 0x5f0f, 0x4f1a, 0x793e], [0x70, 0x61], [0x6e, 0x61], [0x3bc, 0x61], [0x6d, 0x61],
    [0x6b, 0x61], [0x6b, 0x62], [0x6d, 0x62], [0x67, 0x62], [0x63, 0x61, 0x6c],
    [0x6b, 0x63, 0x61, 0x6c], [0x70, 0x66], [0x6e, 0x66], [0x3bc, 0x66], [0x3bc, 0x67],
    [0x6d, 0x67], [0x6b, 0x67], [0x68, 0x7a], [0x6b, 0x68, 0x7a], [0x6d, 0x68, 0x7a],
    [0x67, 0x68, 0x7a], [0x74, 0x68, 0x7a], [0x3bc, 0x6c], [0x6d, 0x6c], [0x64, 0x6c],
    [0x6b, 0x6c], [0x66, 0x6d], [0x6e, 0x6d], [0x3bc, 0x6d], [0x6d, 0x6d], [0x63, 0x6d],
    [0x6b, 0x6d], [0x6d, 0x6d, 0x32], [0x63, 0x6d, 0x32], [0x6d, 0x32], [0x6b, 0x6d, 0x32],
    [0x6d, 0x6d, 0x33], [0x63, 0x6d, 0x33], [0x6d, 0x33], [0x6b, 0x6d, 0x33],
    [0x6d, 0x2215, 0x73], [0x6d, 0x2215, 0x73, 0x32], [0x70, 0x61], [0x6b, 0x70, 0x61],
    [0x6d, 0x70, 0x61], [0x67, 0x70, 0x61], [0x72, 0x61, 0x64], [0x72, 0x61, 0x64, 0x2215, 0x73],
    [0x72, 0x61, 0x64, 0x2215, 0x73, 0x32], [0x70, 0x73], [0x6e, 0x73], [0x3bc, 0x73],
    [0x6d, 0x73], [0x70, 0x76], [0x6e, 0x76], [0x3bc, 0x76], [0x6d, 0x76], [0x6b, 0x76],
    [0x6d, 0x76], [0x70, 0x77], [0x6e, 0x77], [0x3bc, 0x77], [0x6d, 0x77], [0x6b, 0x77],
    [0x6d, 0x77], [0x6b, 0x3c9], [0x6d, 0x3c9]]⟩,
  ⟨0x33c3, [[0x62, 0x71], [0x63, 0x63], [0x63, 0x64], [0x63, 0x2215, 0x6b, 0x67]]⟩,
  ⟨0x33c8, [
    [0x64, 0x62], [0x67, 0x79], [0x68, 0x61], [0x68, 0x70], [0x69, 0x6e], [0x6b, 0x6b],
    [0x6b, 0x6d], [0x6b, 0x74], [0x6c, 0x6d], [0x6c, 0x6e], [0x6c, 0x6f, 0x67], [0x6c, 0x78],
    [0x6d, 0x62], [0x6d, 0x69, 0x6c], [0x6d, 0x6f, 0x6c], [0x70, 0x68]]⟩,
  ⟨0x33d9, [
    [0x70, 0x70, 0x6d], [0x70, 0x72], [0x73, 0x72], [0x73, 0x76], [0x77, 0x62],
    [0x76, 0x2215, 0x6d], [0x61, 0x2215, 0x6d], [0x31, 0x65e5], [0x32, 0x65e5], [0x33, 0x65e5],
    [0x34, 0x65e5], [0x35, 0x65e5], [0x36, 0x65e5], [0x37, 0x65e5], [0x38, 0x65e5],
    [0x39, 0x65e5], [0x31, 0x30, 0x65e5], [0x31, 0x31, 0x65e5], [0x31, 0x32, 0x65e5],
    [0x31, 0x33, 0x65e5], [0x31, 0x34, 0x65e5], [0x31, 0x35, 0x65e5], [0x31, 0x36, 0x65e5],
    [0x31, 0x37, 0x65e5], [0x31, 0x38, 0x65e5], [0x31, 0x39, 0x65e5], [0x32, 0x30, 0x65e5],
    [0x32, 0x31, 0x65e5], [0x32, 0x32, 0x65e5], [0x32, 0x33, 0x65e5], [0x32, 0x34, 0x65e5],
    [0x32, 0x35, 0x65e5], [0x32, 0x36, 0x65e5], [0x32, 0x37, 0x65e5], [0x32, 0x38, 0x65e5],
    [0x32, 0x39, 0x65e5], [0x33, 0x30, 0x65e5], [0x33, 0x31, 0x65e5], [0x67, 0x61, 0x6c]]⟩,
  ⟨0xfe10, [[0x2c], [0x3001]]⟩, ⟨0xfe13, [[0x3a], [0x3b], [0x21], [0x3f], [0x3016], [0x3017]]⟩,
  ⟨0xfe31, [
    [0x2014], [0x2013], [0x5f], [0x5f], [0x28], [0x29], [0x7b], [0x7d], [0x3014], [0x3015],
    [0x3010], [0x3011], [0x300a], [0x300b], [0x3008], [0x3009]]⟩,
  ⟨0xfe47, [
    [0x5b], [0x5d], [0x20, 0x305], [0x20, 0x305], [0x20, 0x305], [0x20, 0x305], [0x5f], [0x5f],
    [0x5f], [0x2c], [0x3001]]⟩,
  ⟨0xfe54, [
    [0x3b], [0x3a], [0x3f], [0x21], [0x2014], [0x28], [0x29], [0x7b], [0x7d], [0x3014], [0x3015],
    [0x23], [0x26], [0x2a], [0x2b], [0x2d], [0x3c], [0x3e], [0x3d]]⟩,
  ⟨0xfe68, [[0x5c], [0x24], [0x25], [0x40]]⟩,
  ⟨0xff5f, [
    [0x2985], [0x2986], [0x2e], [0x300c], [0x300d], [0x3001], [0x30fb], [0x30f2], [0x30a1],
    [0x30a3], [0x30a5], [0x30a7], [0x30a9], [0x30e3], [0x30e5], [0x30e7], [0x30c3], [0x30fc],
    [0x30a2], [0x30a4], [0x30a6], [0x30a8], [0x30aa], [0x30ab], [0x30ad], [0x30af], [0x30b1],
    [0x30b3], [0x30b5], [0x30b7], [0x30b9], [0x30bb], [0x30bd], [0x30bf], [0x30c1], [0x30c4],
    [0x30c6], [0x30c8]]⟩,
  ⟨0xff8b, [[0x30d2], [0x30d5], [0x30d8], [0x30db]]⟩, ⟨0xff94, [[0x30e4], [0x30e6]]⟩,
  ⟨0xff9c, [[0x30ef], [0x30f3], [0x3099], [0x309a]]⟩,
  ⟨0xffa1, [
    [0x1100], [0x1101], [0x11aa], [0x1102], [0x11ac], [0x11ad], [0x1103], [0x1104], [0x1105]]⟩,
  ⟨0xffb0, [[0x111a], [0x1106], [0x1107], [0x1108], [0x1121]]⟩,
  ⟨0xffda, [[0x1173], [0x1174], [0x1175]]⟩,
  ⟨0xffe0, [[0xa2], [0xa3], [0xac], [0x20, 0x304], [0xa6], [0xa5], [0x20a9]]⟩,
  ⟨0xffe8, [[0x2502]]⟩, ⟨0xffed, [[0x25a0], [0x25cb]]⟩,
  ⟨0x1f101, [
    [0x30, 0x2c], [0x31, 0x2c], [0x32, 0x2c], [0x33, 0x2c], [0x34, 0x2c], [0x35, 0x2c],
    [0x36, 0x2c], [0x37, 0x2c], [0x38, 0x2c], [0x39, 0x2c]]⟩,
  ⟨0x1f110, [
    [0x28, 0x61, 0x29], [0x28, 0x62, 0x29], [0x28, 0x63, 0x29], [0x28, 0x64, 0x29],
    [0x28, 0x65, 0x29], [0x28, 0x66, 0x29], [0x28, 0x67, 0x29], [0x28, 0x68, 0x29],
    [0x28, 0x69, 0x29], [0x28, 0x6a, 0x29], [0x28, 0x6b, 0x29], [0x28, 0x6c, 0x29],
    [0x28, 0x6d, 0x29], [0x28, 0x6e, 0x29], [0x28, 0x6f, 0x29], [0x28, 0x70, 0x29],
    [0x28, 0x71, 0x29], [0x28, 0x72, 0x29], [0x28, 0x73, 0x29], [0x28, 0x74, 0x29],
    [0x28, 0x75, 0x29], [0x28, 0x76, 0x29], [0x28, 0x77, 0x29], [0x28, 0x78, 0x29],
    [0x28, 0x79, 0x29], [0x28, 0x7a, 0x29], [0x3014, 0x73, 0x3015], [0x63], [0x72], [0x63, 0x64],
    [0x77, 0x7a]]⟩,
  ⟨0x1f14a, [
    [0x68, 0x76], [0x6d, 0x76], [0x73, 0x64], [0x73, 0x73], [0x70, 0x70, 0x76], [0x77, 0x63]]⟩,
  ⟨0x1f16a, [[0x6d, 0x63], [0x6d, 0x64], [0x6d, 0x72]]⟩, ⟨0x1f190, [[0x64, 0x6a]]⟩,
  ⟨0x1f200, [[0x307b, 0x304b], [0x30b3, 0x30b3], [0x30b5]]⟩,
  ⟨0x1f210, [
    [0x624b], [0x5b57], [0x53cc], [0x30c7], [0x4e8c], [0x591a], [0x89e3], [0x5929], [0x4ea4],
    [0x6620], [0x7121], [0x6599], [0x524d], [0x5f8c], [0x518d], [0x65b0], [0x521d], [0x7d42],
    [0x751f], [0x8ca9], [0x58f0], [0x5439], [0x6f14], [0x6295], [0x6355], [0x4e00], [0x4e09],
    [0x904a], [0x5de6], [0x4e2d], [0x53f3], [0x6307], [0x8d70], [0x6253], [0x7981], [0x7a7a],
    [0x5408], [0x6e80], [0x6709], [0x6708], [0x7533], [0x5272], [0x55b6], [0x914d]]⟩,
  ⟨0x1f240, [
    [0x3014, 0x672c, 0x3015], [0x3014, 0x4e09, 0x3015], [0x3014, 0x4e8c, 0x3015],
    [0x3014, 0x5b89, 0x3015], [0x3014, 0x70b9, 0x3015], [0x3014, 0x6253, 0x3015],
    [0x3014, 0x76d7, 0x3015], [0x3014, 0x52dd, 0x3015], [0x3014, 0x6557, 0x3015]]⟩,
  ⟨0x1f250, [[0x5f97], [0x53ef]]⟩]

end TwoStep.Url.Name
