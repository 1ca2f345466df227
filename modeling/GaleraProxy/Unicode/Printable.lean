import GaleraProxy.Unicode.Table

/-!
# Printable characters

A character is printable when it is assigned and is neither a control, a format character, a
private-use character nor a separator other than the space. An extending character joins the one
before it, so on its own it does not show.
-/

namespace GaleraProxy.Unicode

/-- Letter `Y` for the printable characters. -/
def printableTable : Table := .ofText
  "wN 2nY yN cY 1N juY 2N 6Y 4N 7Y 1N 1Y 1N kY 1N b1Y 1N 12Y 2N 1eY 2N 3Y 1N 1jY 8N rY 4N 6Y hN mY 1N
5cY 1N 1cY 2N 1nY 2N 2tY eN 1nY 2N 1dY 2N fY 1N sY 2N 1Y 1N bY 5N wY 7N 23Y 1N 4hY 1N 8Y 2N 2Y 2N
mY 1N 7Y 1N 1Y 3N 4Y 2N 9Y 2N 2Y 2N 4Y 8N 1Y 4N 2Y 1N 5Y 2N pY 2N 3Y 1N 6Y 4N 2Y 2N mY 1N 7Y 1N 2Y
1N 2Y 1N 2Y 2N 1Y 1N 5Y 4N 2Y 2N 3Y 3N 1Y 7N 4Y 1N 1Y 7N hY aN 3Y 1N 9Y 1N 3Y 1N mY 1N 7Y 1N 2Y 1N
5Y 2N aY 1N 3Y 1N 3Y 2N 1Y fN 4Y 2N cY 7N 7Y 1N 3Y 1N 8Y 2N 2Y 2N mY 1N 7Y 1N 2Y 1N 5Y 2N 9Y 2N 2Y
2N 3Y 7N 3Y 4N 2Y 1N 5Y 2N iY aN 2Y 1N 6Y 3N 3Y 1N 4Y 3N 2Y 1N 1Y 1N 2Y 3N 2Y 3N 3Y 3N cY 4N 5Y 3N
3Y 1N 4Y 2N 1Y 6N 1Y eN lY 5N dY 1N 3Y 1N nY 1N gY 2N 9Y 1N 3Y 1N 4Y 7N 2Y 1N 3Y 1N 2Y 2N 4Y 2N aY
7N mY 1N 3Y 1N nY 1N aY 1N 5Y 2N 9Y 1N 3Y 1N 4Y 7N 2Y 5N 3Y 1N 4Y 2N aY 1N 3Y cN dY 1N 3Y 1N 1fY
1N 3Y 1N 6Y 4N gY 2N qY 1N 3Y 1N iY 3N oY 1N 9Y 1N 1Y 2N 7Y 3N 1Y 4N 6Y 1N 1Y 1N 8Y 6N aY 2N 3Y cN
1mY 4N tY 11N 2Y 1N 1Y 1N 5Y 1N oY 1N 1Y 1N nY 2N 5Y 1N 1Y 1N 7Y 1N aY 2N 4Y wN 20Y 1N 10Y 4N 13Y
1N 10Y 1N fY 1N dY 11N 5iY 1N 1Y 5N 1Y 2N ahY 1N 4Y 2N 7Y 1N 1Y 1N 4Y 2N 15Y 1N 4Y 2N xY 1N 4Y 2N
7Y 1N 1Y 1N 4Y 2N fY 1N 1lY 1N 4Y 2N 1vY 2N wY 3N qY 6N 2eY 2N 6Y 2N hsY 1N sY 3N 2hY 7N mY 9N oY
9N kY cN dY 1N 3Y 1N 2Y cN 2mY 2N aY 6N aY 6N eY 1N bY 6N 2hY 7N 17Y 5N 1yY aN vY 1N cY 4N cY 4N
1Y 3N 16Y 2N 5Y bN 18Y 4N qY 6N bY 3N 1qY 2N 1tY 1N tY 2N bY 6N aY 6N eY 2N 1aY 2N cY kN 25Y 1N
4mY 8N 1oY 3N fY 3N 1qY 5N 17Y 2N bY 8N 17Y 5N euY 2N 6Y 2N 12Y 2N 6Y 2N 8Y 1N 1Y 1N 1Y 1N 1Y 1N
vY 2N 1hY 1N fY 1N eY 2N 6Y 1N jY 2N 3Y 1N 9Y hN oY 8N 1bY hN 2Y 2N rY 1N dY 3N yY eN xY fN 3wY 4N
iiY mN bY lN 1ecY 2N amY 5N 19Y 1N 1Y 5N 1Y 2N 1kY 7N 2Y eN oY 9N 7Y 1N 7Y 1N 7Y 1N 7Y 1N 7Y 1N 7Y
1N 7Y 1N 7Y 1N 3iY yN qY 1N 2hY cN 5yY qN gY 1N 1rY 1N 2eY 2N 2vY 5N 17Y 1N 2mY 1N 2eY 9N 1cY 1N
mlpY 3N 1jY 9N 9oY kN 54Y 8N 65Y kN 1oY 3N aY 6N 1kY 8N 1yY 8N cY 6N 38Y bN uY 3N 26Y 1N bY 4N xY
1N 1jY 9N eY 2N aY 2N 2vY oN sY aN 6Y 2N 6Y 2N 6Y 9N 7Y 1N 7Y 1N 1oY 4N 3iY 2N aY 6N 8mcY cN nY 4N
1dY 6isN a6Y 2N 2yY 12N 7Y cN 5Y 5N qY 1N 5Y 1N 1Y 1N 2Y 1N 2Y 1N i2Y wN 16Y 6N 1fY 1N jY 1N 4Y 4N
5Y 1N 3rY 4N 5aY 3N 6Y 2N 6Y 2N 6Y 2N 3Y 3N 7Y 1N 7Y dN 2Y 2N cY 1N qY 1N jY 1N 2Y 1N fY 2N eY yN
3fY 5N 3Y 4N 19Y 3N 2gY 1N dY 3N 1Y 1bN 1aY 3mN tY 3N 1dY fN sY 4N 10Y 9N uY 5N 17Y 5N uY 1N 11Y
4N eY 16N 4eY 2N aY 6N 10Y 4N 10Y 4N 14Y 8N 1gY bN cY 1N fY 1N 7Y 1N 2Y 1N bY 1N fY 1N 7Y 1N 2Y 3N
1gY cN 8nY 9N mY aN 8Y oN 6Y 1N 16Y 1N 9Y 1xN 6Y 2N 1Y 1N 18Y 1N 2Y 3N 1Y 2N nY 1N 20Y 8N 9Y 1cN
jY 1N 2Y 5N xY 3N rY 5N rY 12N 1kY 4N kY 2N 1eY 1N 2Y 5N 8Y 1N 3Y 1N tY 2N 3Y 4N aY 7N 9Y 7N 1sY
wN 13Y 4N cY 9N 1iY 3N tY 2N rY 5N qY 7N 4Y cN 7Y 28N 21Y 1jN 1fY dN 1fY 7N 1aY 8N aY 6N 12Y 3N tY
8N 2Y 5sN vY 1N 16Y 1N 3Y 2N 2Y gN 6Y 8N 9Y xN 1aY 8N 16Y mN qY 12N sY kN nY 9N 26Y 4N 10Y 9N 1qY
1N 5Y dN pY 7N aY 6N 1hY 1N iY 8N 13Y 9N 2oY 1N kY bN iY 1N 1bY 1qN 7Y 1N 1Y 1N 4Y 1N fY 1N bY 6N
1nY 5N aY 6N 4Y 1N 8Y 2N 2Y 2N mY 1N 7Y 1N 2Y 1N 5Y 1N aY 2N 2Y 2N 3Y 2N 1Y 6N 1Y 5N 7Y 2N 7Y 3N
5Y bN aY 1N 1Y 2N 1Y 1N 12Y 1N aY 1N 1Y 2N 1Y 1N 4Y 1N aY 1N 2Y 8N 2Y tN 2kY 1N 5Y uN 20Y 8N aY
4mN 1iY 2N 12Y yN 1xY bN aY 6N dY jN 1mY 6N aY 6N kY sN rY 2N fY 4N nY 55N 1oY 2sN 2bY cN 8Y 2N 1Y
2N 8Y 1N 2Y 1N uY 1N 2Y 2N cY 9N aY 1yN 8Y 2N 1aY 2N bY rN 20Y 8N 2bY dN 21Y 7N aY 2eN 8Y 2gN yY
eN aY 6N 9Y 1N 19Y 1N eY aN tY 3N wY 2N mY 1N eY 21N 7Y 1N 2Y 1N 18Y 3N 1Y 1N 2Y 1N 9Y 8N aY 6N 6Y
1N 2Y 1N 11Y 1N 2Y 1N 6Y 7N aY 6N 18Y 4N aY 6uN pY 7N hY 1N 15Y 3N tY 2dN 1Y fN 1eY dN pnY 2uN 33Y
1N 5Y bN 5gY 218N 2rY dN tsY gN mY aN 32zY 5N g7Y 5a1N 1mY 1c6N ftY 7N vY 1N aY 4N 29Y 1N aY 6N uY
2N 6Y aN 1yY aN aY 1N 7Y 1N lY 5N jY c0N 1mY 5iN 2jY 5N pY 2N pY 18N 23Y 4N 1lY 7N hY 1sN 5Y bN 7Y
9N 5p2Y 15N wY 2pN 37Y 6ppN 4Y 1N 7Y 1N 2Y 1N 83Y fN 1Y tN 3Y 2N 1Y eN 4Y 8N b0Y 1s4N 2zY 5N dY 3N
9Y 7N aY 2N 4Y 31cN 71Y 3N c4Y 6N nY fN hY fN 1aY 2N nY 9N 38Y 1oN 6uY aN 13Y 2N 22Y 8N 34Y lN 1yY
3eN kY cN kY cN 2fY 9N pY 3rN 2dY 1N 1zY 1N 2Y 2N 1Y 2N 2Y 2N 4Y 1N cY 1N 1Y 1N 7Y 1N 1tY 1N 4Y 2N
8Y 1N 7Y 1N sY 1N 4Y 1N 5Y 1N 1Y 3N 7Y 1N 9gY 2N 84Y 2N jiY fN 5Y 1N fY uoN vY 6N 6Y 5xN 7Y 1N hY
2N 7Y 1N 2Y 1N 5Y 5N 1qY xN 1Y 34N 19Y 3N eY 2N aY 4N 2Y 8wN vY hN 1mY 5N 1Y cwN 16Y 5yN 17Y 4N 1Y
5cN vY 1N mY 8N 2Y 68N 7Y 1N 4Y 1N 2Y 1N fY 1N 5hY 2N gY 15N 24Y 4N aY 4N 2Y ltN 1wY 24N 1pY 5eN
4Y 1N rY 1N 2Y 1N 1Y 2N 1Y 1N aY 1N 4Y 1N 1Y 1N 1Y 6N 1Y 4N 1Y 1N 1Y 1N 1Y 1N 3Y 1N 2Y 1N 1Y 2N 1Y
1N 1Y 1N 1Y 1N 1Y 1N 1Y 1N 2Y 1N 1Y 2N 4Y 1N 7Y 1N 4Y 1N 4Y 1N 1Y 1N aY 1N hY 5N 3Y 1N 5Y 1N hY
1gN 2Y 7iN 18Y 4N 2sY cN fY 2N fY 1N fY 1N 11Y aN 4uY 1kN tY dN 18Y 4N 9Y 7N 2Y eN 6Y 4aN rdY 3N
hY 3N dY 3N 62Y 6N cY 4N 1Y fN cY 4N 1kY 8N aY 6N 14Y 8N uY 2N cY 4N 2Y eN 9Y 13N 9kY 8N eY 2N dY
3N bY 3N 1lY 1N 1Y 4N gY 2N cY 4N aY 7N 43Y 1N 2vY slN wyoY wN 3dqY 2N 4geY 2N 5rlY fN haY 1wiN
f2Y 15uN 3t7Y 5N 6juY f62uN 6oY 47bkN"

/-- Letter `Y` for the characters that extend a grapheme. -/
def extendingTable : Table := .ofText
  "lcN 34Y 7nN 7Y 7bN 19Y 1N 1Y 1N 2Y 1N 2Y 1N 1Y 20N bY 1cN lY gN 1Y 2tN 7Y 2N 6Y 2N 2Y 1N 4Y zN 1Y
uN rY 2jN bY 1mN 9Y 9N 1Y oN 4Y 1N 9Y 1N 3Y 1N 5Y 17N 3Y 1nN 9Y 16N oY 1N wY 1jN 1Y 1N 1Y 4N 8Y 4N
1Y 3N 7Y aN 2Y tN 1Y 1mN 1Y 1N 1Y 2N 4Y 8N 1Y 9N 1Y aN 2Y qN 1Y 2N 2Y 1lN 1Y 4N 2Y 4N 2Y 2N 3Y 3N
1Y uN 2Y 3N 1Y bN 2Y 1lN 1Y 4N 5Y 1N 2Y 4N 1Y kN 2Y mN 6Y 1N 1Y 1mN 1Y 1N 2Y 1N 4Y 8N 1Y 7N 3Y aN
2Y uN 1Y 1nN 1Y 1N 1Y cN 1Y 9N 1Y 14N 1Y 3N 1Y 1jN 1Y 1N 3Y 5N 3Y 1N 4Y 7N 2Y bN 2Y tN 1Y 1mN 1Y
2N 1Y 2N 1Y 3N 1Y 5N 2Y 7N 2Y bN 2Y sN 2Y 1lN 2Y 1N 1Y 2N 4Y 8N 1Y 9N 1Y aN 2Y tN 1Y 20N 1Y 4N 1Y
2N 3Y 1N 1Y 8N 1Y 29N 1Y 2N 7Y cN 8Y 2qN 1Y 2N 9Y bN 7Y 21N 2Y rN 1Y 1N 1Y 1N 1Y 1jN eY 1N 5Y 1N
2Y 5N bY 1N 10Y 9N 1Y 2uN 4Y 1N 6Y 1N 2Y 2N 2Y pN 2Y 4N 3Y gN 4Y dN 1Y 2N 2Y 6N 1Y fN 1Y jjN 3Y
qaN 3Y tN 2Y uN 2Y uN 2Y 1sN 2Y 1N 7Y 8N 1Y 2N bY 9N 1Y 19N 3Y 1N 1Y 39N 2Y yN 1Y 3aN 3Y 4N 2Y 9N
1Y 6N 3Y 63N 2Y 2N 1Y 1mN 1Y 1N 7Y 1N 1Y 1N 1Y 2N 8Y 6N aY 2N 1Y 1cN 1aY 2N cY kN 4Y 1cN 7Y 1N 1Y
5N 1Y 14N 9Y cN 2Y wN 4Y 2N 2Y 1N 3Y 1kN 1Y 1N 2Y 3N 1Y 1N 3Y 1mN 8Y 2N 2Y 48N 3Y 1N dY 1N 7Y 4N
1Y 6N 1Y 3N 2Y 5iN 1sY ekN 1Y 5fN xY 2daN 3Y 3xN 1Y 2oN wY feN 6Y 2xN 2Y n9wN 4Y 1N aY wN 2Y 28N
2Y 7kN 1Y 3N 1Y 4N 1Y pN 2Y 5N 1Y 47N 2Y qN iY dN 1Y 12N 8Y pN bY 1aN 3Y 1cN 1Y 2N 4Y 2N 2Y 13N 1Y
1vN 6Y 2N 2Y 2N 2Y cN 1Y 8N 1Y 1bN 1Y 1fN 1Y 1N 3Y 2N 2Y 5N 2Y 1N 1Y 16N 2Y 8N 1Y 6mN 1Y 2N 1Y 4N
1Y fn4N 1Y khN gY gN gY a6N 2Y gtN 1Y 6aN 1Y 45N 5Y 1aeN 3Y 1N 2Y 5N 4Y 14N 3Y 4N 1Y 4lN 2Y fxN 4Y
1tN 5Y 8tN 2Y 25N 6Y 1yN bY 1dN 4Y 3fN 1Y 1iN fY 15N 1Y 2N 2Y aN 3Y 1dN 4Y 2N 2Y 7N 1Y 1pN 3Y 10N
5Y 1N 8Y 1qN 1Y cN 2Y 1gN 9Y aN 4Y 2N 1Y 2nN 3Y 2N 1Y 1N 2Y 6N 1Y 2N 1Y 4dN 1Y 3N 8Y lN 2Y 1lN 2Y
1N 1Y 1N 1Y mN 1Y eN 7Y 3N 5Y 1yN 6Y dN 1Y 1N 1Y 1N 1Y eN 2Y 2dN 8Y 2N 3Y 1N 1Y nN 1Y 29N 1Y 2N 6Y
1N 1Y 2N 1Y 1N 2Y 1N 2Y 6jN 1Y 2N 4Y 6N 2Y 1N 2Y rN 2Y 2dN 8Y 2N 1Y 1N 2Y 2yN 1Y 1N 1Y 2N 6Y 1N 1Y
2tN 3Y 2N 4Y 1N 5Y 77N 9Y 1N 2Y 6tN 1Y aN 2Y 1N 1Y 4N 1Y 40N 4Y 2N 2Y 4N 1Y wN aY 14N 6Y 2N 4Y 8N
1Y 9N 6Y 2N 3Y 1aN dY 1N 2Y 5iN 1Y 1N 3Y 1N 1Y 5lN 7Y 1N 6Y 1N 1Y 2aN mY 2N 7Y 1N 2Y 1N 2Y 3eN 6Y
3N 1Y 1N 2Y 1N 7Y 1N 1Y 20N 2Y 3N 1Y 1N 1Y 9nN 2Y bN 2Y 1gN 5Y 5N 1Y 1N 1Y nN 1Y 44lN 1Y 6N fY
8ugN cY 3N 3Y 1xcN 5Y 1nN 7Y t4N 1Y 1rN 4Y 29N 1Y f5kN 2Y 3mpN 1aY 2N nY f2N 1Y 1N 3Y 4N 5Y 8N 8Y
2N 7Y uN 4Y 44N 3Y 1izN 1jY 4N 1eY 8N 1Y eN 1Y mN 5Y 1N fY 11sN 7Y 1N hY 2N 7Y 1N 2Y 1N 5Y 2sN 1Y
4gN 7Y afN 1Y 1pN 4Y e4N 4Y 72N 2Y 6rN 1Y 2N 1Y 7N 2Y 5N 1Y d6N 7Y 31N 7Y gzbpN 2oY 3kN 6oY 47bkN"

/-- Whether a character shows when it is written as itself. -/
def isPrintable (c : Char) : Bool :=
  if c.toNat < 0x7f then 0x20 ≤ c.toNat else printableTable.letter c == 'Y'

/-- Whether a character extends the grapheme before it. -/
def isExtending (c : Char) : Bool :=
  if c.toNat < 0x300 then false else extendingTable.letter c == 'Y'

end GaleraProxy.Unicode
