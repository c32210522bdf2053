/-!
# Zones of North America, with the Caribbean

Entries of the time zone database for North America, with the Caribbean.
-/

namespace TransitDwell

namespace ZoneData

/-- The yearly changes of clocks that are laid down there. -/
def northAmericaChanges : String := "
  US = 1918-1919 Mar lastSun 2 1; 1918-1919 Oct lastSun 2 0; 1942 Feb 9 2 1; 1945 Aug 14 23u 1;
    1945 Sep 30 2 0; 1967-2006 Oct lastSun 2 0; 1967-1973 Apr lastSun 2 1; 1974 Jan 6 2 1;
    1975 Feb lastSun 2 1; 1976-1986 Apr lastSun 2 1; 1987-2006 Apr Sun>=1 2 1;
    2007- Mar Sun>=8 2 1; 2007- Nov Sun>=1 2 0.
  NewYork = 1920 Mar lastSun 2 1; 1920 Oct lastSun 2 0; 1921-1966 Apr lastSun 2 1;
    1921-1954 Sep lastSun 2 0; 1955-1966 Oct lastSun 2 0.
  Chicago = 1920 Jun 13 2 1; 1920-1921 Oct lastSun 2 0; 1921 Mar lastSun 2 1;
    1922-1966 Apr lastSun 2 1; 1922-1954 Sep lastSun 2 0; 1955-1966 Oct lastSun 2 0.
  Denver = 1920-1921 Mar lastSun 2 1; 1920 Oct lastSun 2 0; 1921 May 22 2 0;
    1965-1966 Apr lastSun 2 1; 1965-1966 Oct lastSun 2 0.
  California = 1948 Mar 14 2:1 1; 1949 Jan 1 2 0; 1950-1966 Apr lastSun 1 1;
    1950-1961 Sep lastSun 2 0; 1962-1966 Oct lastSun 2 0.
  Indianapolis = 1941 Jun 22 2 1; 1941-1954 Sep lastSun 2 0; 1946-1954 Apr lastSun 2 1.
  Marengo = 1951 Apr lastSun 2 1; 1951 Sep lastSun 2 0; 1954-1960 Apr lastSun 2 1;
    1954-1960 Sep lastSun 2 0.
  Vincennes = 1946 Apr lastSun 2 1; 1946 Sep lastSun 2 0; 1953-1954 Apr lastSun 2 1;
    1953-1959 Sep lastSun 2 0; 1955 May 1 0 1; 1956-1963 Apr lastSun 2 1; 1960 Oct lastSun 2 0;
    1961 Sep lastSun 2 0; 1962-1963 Oct lastSun 2 0.
  Perry = 1955 May 1 0 1; 1955-1960 Sep lastSun 2 0; 1956-1963 Apr lastSun 2 1;
    1961-1963 Oct lastSun 2 0.
  Pike = 1955 May 1 0 1; 1955-1960 Sep lastSun 2 0; 1956-1964 Apr lastSun 2 1;
    1961-1964 Oct lastSun 2 0.
  Starke = 1947-1961 Apr lastSun 2 1; 1947-1954 Sep lastSun 2 0; 1955-1956 Oct lastSun 2 0;
    1957-1958 Sep lastSun 2 0; 1959-1961 Oct lastSun 2 0.
  Pulaski = 1946-1960 Apr lastSun 2 1; 1946-1954 Sep lastSun 2 0; 1955-1956 Oct lastSun 2 0;
    1957-1960 Sep lastSun 2 0.
  Louisville = 1921 May 1 2 1; 1921 Sep 1 2 0; 1941 Apr lastSun 2 1; 1941 Sep lastSun 2 0;
    1946 Apr lastSun 0:1 1; 1946 Jun 2 2 0; 1950-1961 Apr lastSun 2 1; 1950-1955 Sep lastSun 2 0;
    1956-1961 Oct lastSun 2 0.
  Detroit = 1948 Apr lastSun 2 1; 1948 Sep lastSun 2 0.
  Menominee = 1946 Apr lastSun 2 1; 1946 Sep lastSun 2 0; 1966 Apr lastSun 2 1;
    1966 Oct lastSun 2 0.
  Canada = 1918 Apr 14 2 1; 1918 Oct 27 2 0; 1942 Feb 9 2 1; 1945 Aug 14 23u 1; 1945 Sep 30 2 0;
    1974-1986 Apr lastSun 2 1; 1974-2006 Oct lastSun 2 0; 1987-2006 Apr Sun>=1 2 1;
    2007- Mar Sun>=8 2 1; 2007- Nov Sun>=1 2 0.
  StJohns = 1917 Apr 8 2 1; 1917 Sep 17 2 0; 1919 May 5 23 1; 1919 Aug 12 23 0;
    1920-1935 May Sun>=1 23 1; 1920-1935 Oct lastSun 23 0; 1936-1941 May Mon>=9 0 1;
    1936-1941 Oct Mon>=2 0 0; 1946-1950 May Sun>=8 2 1; 1946-1950 Oct Sun>=2 2 0;
    1951-1986 Apr lastSun 2 1; 1951-1959 Sep lastSun 2 0; 1960-1986 Oct lastSun 2 0;
    1987 Apr Sun>=1 0:1 1; 1987-2006 Oct lastSun 0:1 0; 1988 Apr Sun>=1 0:1 2;
    1989-2006 Apr Sun>=1 0:1 1; 2007-2011 Mar Sun>=8 0:1 1; 2007-2010 Nov Sun>=1 0:1 0.
  Halifax = 1916 Apr 1 0 1; 1916 Oct 1 0 0; 1920 May 9 0 1; 1920 Aug 29 0 0; 1921 May 6 0 1;
    1921-1922 Sep 5 0 0; 1922 Apr 30 0 1; 1923-1925 May Sun>=1 0 1; 1923 Sep 4 0 0;
    1924 Sep 15 0 0; 1925 Sep 28 0 0; 1926 May 16 0 1; 1926 Sep 13 0 0; 1927 May 1 0 1;
    1927 Sep 26 0 0; 1928-1931 May Sun>=8 0 1; 1928 Sep 9 0 0; 1929 Sep 3 0 0; 1930 Sep 15 0 0;
    1931-1932 Sep Mon>=24 0 0; 1932 May 1 0 1; 1933 Apr 30 0 1; 1933 Oct 2 0 0; 1934 May 20 0 1;
    1934 Sep 16 0 0; 1935 Jun 2 0 1; 1935 Sep 30 0 0; 1936 Jun 1 0 1; 1936 Sep 14 0 0;
    1937-1938 May Sun>=1 0 1; 1937-1941 Sep Mon>=24 0 0; 1939 May 28 0 1;
    1940-1941 May Sun>=1 0 1; 1946-1949 Apr lastSun 2 1; 1946-1949 Sep lastSun 2 0;
    1951-1954 Apr lastSun 2 1; 1951-1954 Sep lastSun 2 0; 1956-1959 Apr lastSun 2 1;
    1956-1959 Sep lastSun 2 0; 1962-1973 Apr lastSun 2 1; 1962-1973 Oct lastSun 2 0.
  Moncton = 1933-1935 Jun Sun>=8 1 1; 1933-1935 Sep Sun>=8 1 0; 1936-1938 Jun Sun>=1 1 1;
    1936-1938 Sep Sun>=1 1 0; 1939 May 27 1 1; 1939-1941 Sep Sat>=21 1 0; 1940 May 19 1 1;
    1941 May 4 1 1; 1946-1972 Apr lastSun 2 1; 1946-1956 Sep lastSun 2 0;
    1957-1972 Oct lastSun 2 0; 1993-2006 Apr Sun>=1 0:1 1; 1993-2006 Oct lastSun 0:1 0.
  Toronto = 1919 Mar 30 23:30 1; 1919 Oct 26 0 0; 1920 May 2 2 1; 1920 Sep 26 0 0;
    1921 May 15 2 1; 1921 Sep 15 2 0; 1922-1923 May Sun>=8 2 1; 1922-1926 Sep Sun>=15 2 0;
    1924-1927 May Sun>=1 2 1; 1927-1937 Sep Sun>=25 2 0; 1928-1937 Apr Sun>=25 2 1;
    1938-1940 Apr lastSun 2 1; 1938-1939 Sep lastSun 2 0; 1945-1948 Sep lastSun 2 0;
    1946-1973 Apr lastSun 2 1; 1949-1950 Nov lastSun 2 0; 1951-1956 Sep lastSun 2 0;
    1957-1973 Oct lastSun 2 0.
  Winnipeg = 1916 Apr 23 0 1; 1916 Sep 17 0 0; 1918 Apr 14 2 1; 1918 Oct 27 2 0; 1937 May 16 2 1;
    1937 Sep 26 2 0; 1942 Feb 9 2 1; 1945 Aug 14 23u 1; 1945 Sep lastSun 2 0; 1946 May 12 2 1;
    1946 Oct 13 2 0; 1947-1949 Apr lastSun 2 1; 1947-1949 Sep lastSun 2 0; 1950 May 1 2 1;
    1950 Sep 30 2 0; 1951-1960 Apr lastSun 2 1; 1951-1958 Sep lastSun 2 0; 1959 Oct lastSun 2 0;
    1960 Sep lastSun 2 0; 1963 Apr lastSun 2 1; 1963 Sep 22 2 0; 1966-1986 Apr lastSun 2s 1;
    1966-2005 Oct lastSun 2s 0; 1987-2005 Apr Sun>=1 2s 1.
  Regina = 1918 Apr 14 2 1; 1918 Oct 27 2 0; 1930-1934 May Sun>=1 0 1; 1930-1934 Oct Sun>=1 0 0;
    1937-1941 Apr Sun>=8 0 1; 1937 Oct Sun>=8 0 0; 1938 Oct Sun>=1 0 0; 1939-1941 Oct Sun>=8 0 0;
    1942 Feb 9 2 1; 1945 Aug 14 23u 1; 1945 Sep lastSun 2 0; 1946 Apr Sun>=8 2 1;
    1946 Oct Sun>=8 2 0; 1947-1957 Apr lastSun 2 1; 1947-1957 Sep lastSun 2 0;
    1959 Apr lastSun 2 1; 1959 Oct lastSun 2 0.
  SwiftCurrent = 1957 Apr lastSun 2 1; 1957 Oct lastSun 2 0; 1959-1961 Apr lastSun 2 1;
    1959 Oct lastSun 2 0; 1960-1961 Sep lastSun 2 0.
  Edmonton = 1918-1919 Apr Sun>=8 2 1; 1918 Oct 27 2 0; 1919 May 27 2 0;
    1920-1923 Apr lastSun 2 1; 1920 Oct lastSun 2 0; 1921-1923 Sep lastSun 2 0; 1942 Feb 9 2 1;
    1945 Aug 14 23u 1; 1945 Sep lastSun 2 0; 1947 Apr lastSun 2 1; 1947 Sep lastSun 2 0;
    1972-1986 Apr lastSun 2 1; 1972-2006 Oct lastSun 2 0.
  Vancouver = 1918 Apr 14 2 1; 1918 Oct 27 2 0; 1942 Feb 9 2 1; 1945 Aug 14 23u 1;
    1945 Sep 30 2 0; 1946-1986 Apr lastSun 2 1; 1946 Sep 29 2 0; 1947-1961 Sep lastSun 2 0;
    1962-2006 Oct lastSun 2 0.
  NorthwestTerritories = 1918 Apr 14 2 1; 1918 Oct 27 2 0; 1919 May 25 2 1; 1919 Nov 1 0 0;
    1942 Feb 9 2 1; 1945 Aug 14 23u 1; 1945 Sep 30 2 0; 1972-1986 Apr lastSun 2 1;
    1972-2006 Oct lastSun 2 0; 1987-2006 Apr Sun>=1 2 1.
  Yukon = 1965 Apr lastSun 0 2; 1965 Oct lastSun 2 0.
  Mexico = 1931 Apr 30 0 1; 1931 Oct 1 0 0; 1939 Feb 5 0 1; 1939 Jun 25 0 0; 1940 Dec 9 0 1;
    1941 Apr 1 0 0; 1943 Dec 16 0 1; 1944 May 1 0 0; 1950 Feb 12 0 1; 1950 Jul 30 0 0;
    1996-2000 Apr Sun>=1 2 1; 1996-2000 Oct lastSun 2 0; 2001 May Sun>=1 2 1;
    2001 Sep lastSun 2 0; 2002-2022 Apr Sun>=1 2 1; 2002-2022 Oct lastSun 2 0.
  Barbados = 1942 Apr 19 5u 1; 1942 Aug 31 6u 0; 1943 May 2 5u 1; 1943 Sep 5 6u 0;
    1944 Apr 10 5u 0:30; 1944 Sep 10 6u 0; 1977 Jun 12 2 1; 1977-1978 Oct Sun>=1 2 0;
    1978-1980 Apr Sun>=15 2 1; 1979 Sep 30 2 0; 1980 Sep 25 2 0.
  Belize = 1918-1941 Oct Sat>=1 24 0:30; 1919-1942 Feb Sat>=8 24 0; 1942 Jun 27 24 1;
    1945 Aug 14 23u 1; 1945 Dec 15 24 0; 1947-1967 Oct Sat>=1 24 0:30; 1948-1968 Feb Sat>=8 24 0;
    1973 Dec 5 0 1; 1974 Feb 9 0 0; 1982 Dec 18 0 1; 1983 Feb 12 0 0.
  Bermuda = 1917 Apr 5 24 1; 1917 Sep 30 24 0; 1918 Apr 13 24 1; 1918 Sep 15 24 0;
    1942 Jan 11 2 1; 1942 Oct 18 2 0; 1943 Mar 21 2 1; 1943 Oct 31 2 0; 1944-1945 Mar Sun>=8 2 1;
    1944-1945 Nov Sun>=1 2 0; 1947 May Sun>=15 2 1; 1947 Sep Sun>=8 2 0;
    1948-1952 May Sun>=22 2 1; 1948-1952 Sep Sun>=1 2 0; 1956 May Sun>=22 2 1;
    1956 Oct lastSun 2 0.
  CostaRica = 1979-1980 Feb lastSun 0 1; 1979-1980 Jun Sun>=1 0 0; 1991-1992 Jan Sat>=15 0 1;
    1991 Jul 1 0 0; 1992 Mar 15 0 0.
  Cuba = 1928 Jun 10 0 1; 1928 Oct 10 0 0; 1940-1942 Jun Sun>=1 0 1; 1940-1942 Sep Sun>=1 0 0;
    1945-1946 Jun Sun>=1 0 1; 1945-1946 Sep Sun>=1 0 0; 1965 Jun 1 0 1; 1965 Sep 30 0 0;
    1966 May 29 0 1; 1966 Oct 2 0 0; 1967 Apr 8 0 1; 1967-1968 Sep Sun>=8 0 0; 1968 Apr 14 0 1;
    1969-1977 Apr lastSun 0 1; 1969-1971 Oct lastSun 0 0; 1972-1974 Oct 8 0 0;
    1975-1977 Oct lastSun 0 0; 1978 May 7 0 1; 1978-1990 Oct Sun>=8 0 0;
    1979-1980 Mar Sun>=15 0 1; 1981-1985 May Sun>=5 0 1; 1986-1989 Mar Sun>=14 0 1;
    1990-1997 Apr Sun>=1 0 1; 1991-1995 Oct Sun>=8 0s 0; 1996 Oct 6 0s 0; 1997 Oct 12 0s 0;
    1998-1999 Mar lastSun 0s 1; 1998-2003 Oct lastSun 0s 0; 2000-2003 Apr Sun>=1 0s 1;
    2004 Mar lastSun 0s 1; 2006-2010 Oct lastSun 0s 0; 2007 Mar Sun>=8 0s 1;
    2008 Mar Sun>=15 0s 1; 2009-2010 Mar Sun>=8 0s 1; 2011 Mar Sun>=15 0s 1; 2011 Nov 13 0s 0;
    2012 Apr 1 0s 1; 2012- Nov Sun>=1 0s 0; 2013- Mar Sun>=8 0s 1.
  DominicanRepublic = 1966 Oct 30 0 1; 1967 Feb 28 0 0; 1969-1973 Oct lastSun 0 0:30;
    1970 Feb 21 0 0; 1971 Jan 20 0 0; 1972-1974 Jan 21 0 0.
  ElSalvador = 1987-1988 May Sun>=1 0 1; 1987-1988 Sep lastSun 0 0.
  Guatemala = 1973 Nov 25 0 1; 1974 Feb 24 0 0; 1983 May 21 0 1; 1983 Sep 22 0 0; 1991 Mar 23 0 1;
    1991 Sep 7 0 0; 2006 Apr 30 0 1; 2006 Oct 1 0 0.
  Haiti = 1983 May 8 0 1; 1984-1987 Apr lastSun 0 1; 1983-1987 Oct lastSun 0 0;
    1988-1997 Apr Sun>=1 1s 1; 1988-1997 Oct lastSun 1s 0; 2005-2006 Apr Sun>=1 0 1;
    2005-2006 Oct lastSun 0 0; 2012-2015 Mar Sun>=8 2 1; 2012-2015 Nov Sun>=1 2 0;
    2017- Mar Sun>=8 2 1; 2017- Nov Sun>=1 2 0.
  Honduras = 1987-1988 May Sun>=1 0 1; 1987-1988 Sep lastSun 0 0; 2006 May Sun>=1 0 1;
    2006 Aug Mon>=1 0 0.
  Nicaragua = 1979-1980 Mar Sun>=16 0 1; 1979-1980 Jun Mon>=23 0 0; 2005 Apr 10 0 1;
    2005 Oct Sun>=1 0 0; 2006 Apr 30 2 1; 2006 Oct Sun>=1 1 0."

/-- The zones. -/
def northAmericaZones : String := "
  America/Adak = 12:13:22 - 1867 Oct 19 12:44:35; -11:46:38 - 1900 Aug 20 12; -11 - 1942;
    -11 US 1946; -11 - 1967 Apr; -11 - 1969; -11 US 1983 Oct 30 2; -10 US 1983 Nov 30; -10 US.
  America/Anchorage = 14:0:24 - 1867 Oct 19 14:31:37; -9:59:36 - 1900 Aug 20 12; -10 - 1942;
    -10 US 1967 Apr; -10 - 1969; -10 US 1983 Oct 30 2; -9 US 1983 Nov 30; -9 US.
  America/Bahia_Banderas = -7:1 - 1922 Jan 1 7u; -7 - 1927 Jun 10; -6 - 1930 Nov 15;
    -7 Mexico 1932 Apr; -6 - 1942 Apr 24; -7 - 1970; -7 Mexico 2010 Apr 4 2; -6 Mexico.
  America/Barbados = -3:58:29 - 1911 Aug 28; -4 Barbados 1944; -4 Barbados 1945; -4 Barbados.
  America/Belize = -5:52:48 - 1912 Apr; -6 Belize.
  America/Boise = -7:44:49 - 1883 Nov 18 20u; -8 US 1923 May 13 2; -7 US 1974; -7 - 1974 Feb 3 2;
    -7 US.
  America/Cambridge_Bay = 0 - 1920; -7 NorthwestTerritories 1999 Oct 31 2;
    -6 Canada 2000 Oct 29 2; -5 - 2000 Nov 5; -6 - 2001 Apr 1 3; -7 Canada.
  America/Cancun = -5:47:4 - 1922 Jan 1 6u; -6 - 1981 Dec 26 2; -5 - 1983 Jan 4;
    -6 Mexico 1997 Oct 26 2; -5 Mexico 1998 Aug 2 2; -6 Mexico 2015 Feb 1 2; -5 -.
  America/Chicago = -5:50:36 - 1883 Nov 18 18u; -6 US 1920; -6 Chicago 1936 Mar 1 2;
    -5 - 1936 Nov 15 2; -6 Chicago 1942; -6 US 1946; -6 Chicago 1967; -6 US.
  America/Chihuahua = -7:4:20 - 1922 Jan 1 7u; -7 - 1927 Jun 10; -6 - 1930 Nov 15;
    -7 Mexico 1932 Apr; -6 - 1996; -6 Mexico 1998; -6 - 1998 Apr Sun>=1 3;
    -7 Mexico 2022 Oct 30 2; -6 -.
  America/Ciudad_Juarez = -7:5:56 - 1922 Jan 1 7u; -7 - 1927 Jun 10; -6 - 1930 Nov 15;
    -7 Mexico 1932 Apr; -6 - 1996; -6 Mexico 1998; -6 - 1998 Apr Sun>=1 3; -7 Mexico 2010;
    -7 US 2022 Oct 30 2; -6 - 2022 Nov 30; -7 US.
  America/Costa_Rica = -5:36:13 - 1890; -5:36:13 - 1921 Jan 15; -6 CostaRica.
  America/Danmarkshavn = -1:14:40 - 1916 Jul 28; -3 - 1980 Apr 6 2; -3 EU 1996; 0 -.
  America/Dawson = -9:17:40 - 1900 Aug 20; -9 NorthwestTerritories 1965; -9 Yukon 1973 Oct 28;
    -8 - 1980; -8 Canada 2020 Nov; -7 -.
  America/Dawson_Creek = -8:0:56 - 1884; -8 Canada 1947; -8 Vancouver 1972 Aug 30 2; -7 -.
  America/Denver = -6:59:56 - 1883 Nov 18 19u; -7 US 1920; -7 Denver 1942; -7 US 1946;
    -7 Denver 1967; -7 US.
  America/Detroit = -5:32:11 - 1905; -6 - 1915 May 15 2; -5 - 1942; -5 US 1946;
    -5 Detroit 1967 Jun 14 0:1; -5 US 1969; -5 - 1973; -5 US 1975; -5 - 1975 Apr 27 2; -5 US.
  America/Edmonton = -7:33:52 - 1906 Sep; -7 Edmonton 1987; -7 Canada.
  America/El_Salvador = -5:56:48 - 1921; -6 ElSalvador.
  America/Fort_Nelson = -8:10:47 - 1884; -8 Vancouver 1946; -8 - 1947; -8 Vancouver 1987;
    -8 Canada 2015 Mar 8 2; -7 -.
  America/Glace_Bay = -3:59:48 - 1902 Jun 15; -4 Canada 1953; -4 Halifax 1954; -4 - 1972;
    -4 Halifax 1974; -4 Canada.
  America/Goose_Bay = -4:1:40 - 1884; -3:30:52 - 1918; -3:30:52 Canada 1919;
    -3:30:52 - 1935 Mar 30; -3:30 - 1936; -3:30 StJohns 1942 May 11; -3:30 Canada 1946;
    -3:30 StJohns 1966 Mar 15 2; -4 StJohns 2011 Nov; -4 Canada.
  America/Grand_Turk = -4:44:32 - 1890; -5:7:10 - 1912 Feb; -5 - 1979; -5 US 2015 Mar 8 2;
    -4 - 2018 Mar 11 3; -5 US.
  America/Guatemala = -6:2:4 - 1918 Oct 5; -6 Guatemala.
  America/Halifax = -4:14:24 - 1902 Jun 15; -4 Halifax 1918; -4 Canada 1919;
    -4 Halifax 1942 Feb 9 2s; -4 Canada 1946; -4 Halifax 1974; -4 Canada.
  America/Havana = -5:29:28 - 1890; -5:29:36 - 1925 Jul 19 12; -5 Cuba.
  America/Hermosillo = -7:23:52 - 1922 Jan 1 7u; -7 - 1927 Jun 10; -6 - 1930 Nov 15;
    -7 Mexico 1932 Apr; -6 - 1942 Apr 24; -7 - 1996; -7 Mexico 1999; -7 -.
  America/Indiana/Indianapolis = -5:44:38 - 1883 Nov 18 18u; -6 US 1920; -6 Indianapolis 1942;
    -6 US 1946; -6 Indianapolis 1955 Apr 24 2; -5 - 1957 Sep 29 2; -6 - 1958 Apr 27 2; -5 - 1969;
    -5 US 1971; -5 - 2006; -5 US.
  America/Indiana/Knox = -5:46:30 - 1883 Nov 18 18u; -6 US 1947; -6 Starke 1962 Apr 29 2;
    -5 - 1963 Oct 27 2; -6 US 1991 Oct 27 2; -5 - 2006 Apr 2 2; -6 US.
  America/Indiana/Marengo = -5:45:23 - 1883 Nov 18 18u; -6 US 1951; -6 Marengo 1961 Apr 30 2;
    -5 - 1969; -5 US 1974 Jan 6 2; -6 1 1974 Oct 27 2; -5 US 1976; -5 - 2006; -5 US.
  America/Indiana/Petersburg = -5:49:7 - 1883 Nov 18 18u; -6 US 1955; -6 Pike 1965 Apr 25 2;
    -5 - 1966 Oct 30 2; -6 US 1977 Oct 30 2; -5 - 2006 Apr 2 2; -6 US 2007 Nov 4 2; -5 US.
  America/Indiana/Tell_City = -5:47:3 - 1883 Nov 18 18u; -6 US 1946; -6 Perry 1964 Apr 26 2;
    -5 - 1967 Oct 29 2; -6 US 1969 Apr 27 2; -5 US 1971; -5 - 2006 Apr 2 2; -6 US.
  America/Indiana/Vevay = -5:40:16 - 1883 Nov 18 18u; -6 US 1954 Apr 25 2; -5 - 1969; -5 US 1973;
    -5 - 2006; -5 US.
  America/Indiana/Vincennes = -5:50:7 - 1883 Nov 18 18u; -6 US 1946; -6 Vincennes 1964 Apr 26 2;
    -5 - 1969; -5 US 1971; -5 - 2006 Apr 2 2; -6 US 2007 Nov 4 2; -5 US.
  America/Indiana/Winamac = -5:46:25 - 1883 Nov 18 18u; -6 US 1946; -6 Pulaski 1961 Apr 30 2;
    -5 - 1969; -5 US 1971; -5 - 2006 Apr 2 2; -6 US 2007 Mar 11 2; -5 US.
  America/Inuvik = 0 - 1953; -8 NorthwestTerritories 1979 Apr lastSun 2;
    -7 NorthwestTerritories 1980; -7 Canada.
  America/Iqaluit = 0 - 1942 Aug; -5 NorthwestTerritories 1999 Oct 31 2; -6 Canada 2000 Oct 29 2;
    -5 Canada.
  America/Jamaica = -5:7:10 - 1890; -5:7:10 - 1912 Feb; -5 - 1974; -5 US 1984; -5 -.
  America/Juneau = 15:2:19 - 1867 Oct 19 15:33:32; -8:57:41 - 1900 Aug 20 12; -8 - 1942;
    -8 US 1946; -8 - 1969; -8 US 1980 Apr 27 2; -9 US 1980 Oct 26 2; -8 US 1983 Oct 30 2;
    -9 US 1983 Nov 30; -9 US.
  America/Kentucky/Louisville = -5:43:2 - 1883 Nov 18 18u; -6 US 1921; -6 Louisville 1942;
    -6 US 1946; -6 Louisville 1961 Jul 23 2; -5 - 1968; -5 US 1974 Jan 6 2; -6 1 1974 Oct 27 2;
    -5 US.
  America/Kentucky/Monticello = -5:39:24 - 1883 Nov 18 18u; -6 US 1946; -6 - 1968;
    -6 US 2000 Oct 29 2; -5 US.
  America/Los_Angeles = -7:52:58 - 1883 Nov 18 20u; -8 US 1946; -8 California 1967; -8 US.
  America/Managua = -5:45:8 - 1890; -5:45:12 - 1934 Jun 23; -6 - 1973 May; -5 - 1975 Feb 16;
    -6 Nicaragua 1992 Jan 1 4; -5 - 1992 Sep 24; -6 - 1993; -5 - 1997; -6 Nicaragua.
  America/Martinique = -4:4:20 - 1890; -4:4:20 - 1911 May; -4 - 1980 Apr 6; -4 1 1980 Sep 28;
    -4 -.
  America/Matamoros = -6:30 - 1922 Jan 1 6u; -6 - 1988; -6 US 1989; -6 Mexico 2010; -6 US.
  America/Mazatlan = -7:5:40 - 1922 Jan 1 7u; -7 - 1927 Jun 10; -6 - 1930 Nov 15;
    -7 Mexico 1932 Apr; -6 - 1942 Apr 24; -7 - 1970; -7 Mexico.
  America/Menominee = -5:50:27 - 1885 Sep 18 12; -6 US 1946; -6 Menominee 1969 Apr 27 2;
    -5 - 1973 Apr 29 2; -6 US.
  America/Merida = -5:58:28 - 1922 Jan 1 6u; -6 - 1981 Dec 26 2; -5 - 1982 Nov 2 2; -6 Mexico.
  America/Metlakatla = 15:13:42 - 1867 Oct 19 15:44:55; -8:46:18 - 1900 Aug 20 12; -8 - 1942;
    -8 US 1946; -8 - 1969; -8 US 1983 Oct 30 2; -8 - 2015 Nov 1 2; -9 US 2018 Nov 4 2;
    -8 - 2019 Jan 20 2; -9 US.
  America/Mexico_City = -6:36:36 - 1922 Jan 1 7u; -7 - 1927 Jun 10; -6 - 1930 Nov 15;
    -7 Mexico 1932 Apr; -6 Mexico 2001 Sep 30 2; -6 - 2002 Feb 20; -6 Mexico.
  America/Miquelon = -3:44:40 - 1911 Jun 15; -4 - 1980 May; -3 - 1987; -3 Canada.
  America/Moncton = -4:19:8 - 1883 Dec 9; -5 - 1902 Jun 15; -4 Canada 1933; -4 Moncton 1942;
    -4 Canada 1946; -4 Moncton 1973; -4 Canada 1993; -4 Moncton 2007; -4 Canada.
  America/Monterrey = -6:41:16 - 1922 Jan 1 6u; -7 - 1927 Jun 10; -6 - 1930 Nov 15;
    -7 Mexico 1932 Apr; -6 - 1988; -6 US 1989; -6 Mexico.
  America/New_York = -4:56:2 - 1883 Nov 18 17u; -5 US 1920; -5 NewYork 1942; -5 US 1946;
    -5 NewYork 1967; -5 US.
  America/Nome = 12:58:22 - 1867 Oct 19 13:29:35; -11:1:38 - 1900 Aug 20 12; -11 - 1942;
    -11 US 1946; -11 - 1967 Apr; -11 - 1969; -11 US 1983 Oct 30 2; -9 US 1983 Nov 30; -9 US.
  America/North_Dakota/Beulah = -6:47:7 - 1883 Nov 18 19u; -7 US 2010 Nov 7 2; -6 US.
  America/North_Dakota/Center = -6:45:12 - 1883 Nov 18 19u; -7 US 1992 Oct 25 2; -6 US.
  America/North_Dakota/New_Salem = -6:45:39 - 1883 Nov 18 19u; -7 US 2003 Oct 26 2; -6 US.
  America/Nuuk = -3:26:56 - 1916 Jul 28; -3 - 1980 Apr 6 2; -3 EU 2023 Mar 26 1u;
    -2 - 2023 Oct 29 1u; -2 EU.
  America/Ojinaga = -6:57:40 - 1922 Jan 1 7u; -7 - 1927 Jun 10; -6 - 1930 Nov 15;
    -7 Mexico 1932 Apr; -6 - 1996; -6 Mexico 1998; -6 - 1998 Apr Sun>=1 3; -7 Mexico 2010;
    -7 US 2022 Oct 30 2; -6 - 2022 Nov 30; -6 US.
  America/Panama = -5:18:8 - 1890; -5:19:36 - 1908 Apr 22; -5 -.
  America/Phoenix = -7:28:18 - 1883 Nov 18 19u; -7 US 1944 Jan 1 0:1; -7 - 1944 Apr 1 0:1;
    -7 US 1944 Oct 1 0:1; -7 - 1967; -7 US 1968 Mar 21; -7 -.
  America/Port-au-Prince = -4:49:20 - 1890; -4:49 - 1917 Jan 24 12; -5 Haiti.
  America/Puerto_Rico = -4:24:25 - 1899 Mar 28 12; -4 - 1942 May 3; -4 US 1946; -4 -.
  America/Rankin_Inlet = 0 - 1957; -6 NorthwestTerritories 2000 Oct 29 2; -5 - 2001 Apr 1 3;
    -6 Canada.
  America/Regina = -6:58:36 - 1905 Sep; -7 Regina 1960 Apr lastSun 2; -6 -.
  America/Resolute = 0 - 1947 Aug 31; -6 NorthwestTerritories 2000 Oct 29 2; -5 - 2001 Apr 1 3;
    -6 Canada 2006 Oct 29 2; -5 - 2007 Mar 11 3; -6 Canada.
  America/Santo_Domingo = -4:39:36 - 1890; -4:40 - 1933 Apr 1 12;
    -5 DominicanRepublic 1974 Oct 27; -4 - 2000 Oct 29 2; -5 US 2000 Dec 3 1; -4 -.
  America/Scoresbysund = -1:27:52 - 1916 Jul 28; -2 - 1980 Apr 6 2; -2 CentralEurope 1981 Mar 29;
    -1 EU 2024 Mar 31; -2 EU.
  America/Sitka = 14:58:47 - 1867 Oct 19 15:30; -9:1:13 - 1900 Aug 20 12; -8 - 1942; -8 US 1946;
    -8 - 1969; -8 US 1983 Oct 30 2; -9 US 1983 Nov 30; -9 US.
  America/St_Johns = -3:30:52 - 1884; -3:30:52 StJohns 1918; -3:30:52 Canada 1919;
    -3:30:52 StJohns 1935 Mar 30; -3:30 StJohns 1942 May 11; -3:30 Canada 1946;
    -3:30 StJohns 2011 Nov; -3:30 Canada.
  America/Swift_Current = -7:11:20 - 1905 Sep; -7 Canada 1946 Apr lastSun 2; -7 Regina 1950;
    -7 SwiftCurrent 1972 Apr lastSun 2; -6 -.
  America/Tegucigalpa = -5:48:52 - 1921 Apr; -6 Honduras.
  America/Thule = -4:35:8 - 1916 Jul 28; -4 Thule.
  America/Tijuana = -7:48:4 - 1922 Jan 1 7u; -7 - 1924; -8 - 1927 Jun 10; -7 - 1930 Nov 15;
    -8 - 1931 Apr; -8 1 1931 Sep 30; -8 - 1942 Apr 24; -8 1 1945 Aug 14 23u; -8 1 1945 Nov 15;
    -8 - 1948 Apr 5; -8 1 1949 Jan 14; -8 - 1950 May; -8 1 1950 Sep 24; -8 - 1951 Apr 29 2;
    -8 1 1951 Sep 30 2; -8 - 1952 Apr 27 2; -8 1 1952 Sep 28 2; -8 California 1967; -8 US 1996;
    -8 Mexico 2001; -8 US 2002 Feb 20; -8 Mexico 2010; -8 US.
  America/Toronto = -5:17:32 - 1895; -5 Canada 1919; -5 Toronto 1942 Feb 9 2s; -5 Canada 1946;
    -5 Toronto 1974; -5 Canada.
  America/Vancouver = -8:12:28 - 1884; -8 Vancouver 1987; -8 Canada.
  America/Whitehorse = -9:0:12 - 1900 Aug 20; -9 NorthwestTerritories 1965; -9 Yukon 1966 Feb 27;
    -8 - 1980; -8 Canada 2020 Nov; -7 -.
  America/Winnipeg = -6:28:36 - 1887 Jul 16; -6 Winnipeg 2006; -6 Canada.
  America/Yakutat = 14:41:5 - 1867 Oct 19 15:12:18; -9:18:55 - 1900 Aug 20 12; -9 - 1942;
    -9 US 1946; -9 - 1969; -9 US 1983 Nov 30; -9 US."

end ZoneData

end TransitDwell
