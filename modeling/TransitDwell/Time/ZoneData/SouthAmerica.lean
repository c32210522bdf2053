/-!
# Zones of South America

Entries of the time zone database for South America.
-/

namespace TransitDwell

namespace ZoneData

/-- The yearly changes of clocks that are laid down there. -/
def southAmericaChanges : String := "
  Argentina = 1930 Dec 1 0 1; 1931 Apr 1 0 0; 1931 Oct 15 0 1; 1932-1940 Mar 1 0 0;
    1932-1939 Nov 1 0 1; 1940 Jul 1 0 1; 1941 Jun 15 0 0; 1941 Oct 15 0 1; 1943 Aug 1 0 0;
    1943 Oct 15 0 1; 1946 Mar 1 0 0; 1946 Oct 1 0 1; 1963 Oct 1 0 0; 1963 Dec 15 0 1;
    1964-1966 Mar 1 0 0; 1964-1966 Oct 15 0 1; 1967 Apr 2 0 0; 1967-1968 Oct Sun>=1 0 1;
    1968-1969 Apr Sun>=1 0 0; 1974 Jan 23 0 1; 1974 May 1 0 0; 1988 Dec 1 0 1;
    1989-1993 Mar Sun>=1 0 0; 1989-1992 Oct Sun>=15 0 1; 1999 Oct Sun>=1 0 1; 2000 Mar 3 0 0;
    2007 Dec 30 0 1; 2008-2009 Mar Sun>=15 0 0; 2008 Oct Sun>=15 0 1.
  SanLuis = 2008-2009 Mar Sun>=8 0 0; 2007-2008 Oct Sun>=8 0 1.
  Brazil = 1931 Oct 3 11 1; 1932-1933 Apr 1 0 0; 1932 Oct 3 0 1; 1949-1952 Dec 1 0 1;
    1950 Apr 16 1 0; 1951-1952 Apr 1 0 0; 1953 Mar 1 0 0; 1963 Dec 9 0 1; 1964 Mar 1 0 0;
    1965 Jan 31 0 1; 1965 Mar 31 0 0; 1965 Dec 1 0 1; 1966-1968 Mar 1 0 0; 1966-1967 Nov 1 0 1;
    1985 Nov 2 0 1; 1986 Mar 15 0 0; 1986 Oct 25 0 1; 1987 Feb 14 0 0; 1987 Oct 25 0 1;
    1988 Feb 7 0 0; 1988 Oct 16 0 1; 1989 Jan 29 0 0; 1989 Oct 15 0 1; 1990 Feb 11 0 0;
    1990 Oct 21 0 1; 1991 Feb 17 0 0; 1991 Oct 20 0 1; 1992 Feb 9 0 0; 1992 Oct 25 0 1;
    1993 Jan 31 0 0; 1993-1995 Oct Sun>=11 0 1; 1994-1995 Feb Sun>=15 0 0; 1996 Feb 11 0 0;
    1996 Oct 6 0 1; 1997 Feb 16 0 0; 1997 Oct 6 0 1; 1998 Mar 1 0 0; 1998 Oct 11 0 1;
    1999 Feb 21 0 0; 1999 Oct 3 0 1; 2000 Feb 27 0 0; 2000-2001 Oct Sun>=8 0 1;
    2001-2006 Feb Sun>=15 0 0; 2002 Nov 3 0 1; 2003 Oct 19 0 1; 2004 Nov 2 0 1; 2005 Oct 16 0 1;
    2006 Nov 5 0 1; 2007 Feb 25 0 0; 2007 Oct Sun>=8 0 1; 2008-2017 Oct Sun>=15 0 1;
    2008-2011 Feb Sun>=15 0 0; 2012 Feb Sun>=22 0 0; 2013-2014 Feb Sun>=15 0 0;
    2015 Feb Sun>=22 0 0; 2016-2019 Feb Sun>=15 0 0; 2018 Nov Sun>=1 0 1.
  Chile = 1927-1931 Sep 1 0 1; 1928-1932 Apr 1 0 0; 1968 Nov 3 4u 1; 1969 Mar 30 3u 0;
    1969 Nov 23 4u 1; 1970 Mar 29 3u 0; 1971 Mar 14 3u 0; 1970-1972 Oct Sun>=9 4u 1;
    1972-1986 Mar Sun>=9 3u 0; 1973 Sep 30 4u 1; 1974-1987 Oct Sun>=9 4u 1; 1987 Apr 12 3u 0;
    1988-1990 Mar Sun>=9 3u 0; 1988-1989 Oct Sun>=9 4u 1; 1990 Sep 16 4u 1;
    1991-1996 Mar Sun>=9 3u 0; 1991-1997 Oct Sun>=9 4u 1; 1997 Mar 30 3u 0; 1998 Mar Sun>=9 3u 0;
    1998 Sep 27 4u 1; 1999 Apr 4 3u 0; 1999-2010 Oct Sun>=9 4u 1; 2000-2007 Mar Sun>=9 3u 0;
    2008 Mar 30 3u 0; 2009 Mar Sun>=9 3u 0; 2010 Apr Sun>=1 3u 0; 2011 May Sun>=2 3u 0;
    2011 Aug Sun>=16 4u 1; 2012-2014 Apr Sun>=23 3u 0; 2012-2014 Sep Sun>=2 4u 1;
    2016-2018 May Sun>=9 3u 0; 2016-2018 Aug Sun>=9 4u 1; 2019- Apr Sun>=2 3u 0;
    2019-2021 Sep Sun>=2 4u 1; 2022 Sep Sun>=9 4u 1; 2023- Sep Sun>=2 4u 1.
  Colombia = 1992 May 3 0 1; 1993 Feb 6 24 0.
  Ecuador = 1992 Nov 28 0 1; 1993 Feb 5 0 0.
  Falklands = 1937-1938 Sep lastSun 0 1; 1938-1942 Mar Sun>=19 0 0; 1939 Oct 1 0 1;
    1940-1942 Sep lastSun 0 1; 1943 Jan 1 0 0; 1983 Sep lastSun 0 1; 1984-1985 Apr lastSun 0 0;
    1984 Sep 16 0 1; 1985-2000 Sep Sun>=9 0 1; 1986-2000 Apr Sun>=16 0 0;
    2001-2010 Apr Sun>=15 2 0; 2001-2010 Sep Sun>=1 2 1.
  Paraguay = 1975-1988 Oct 1 0 1; 1975-1978 Mar 1 0 0; 1979-1991 Apr 1 0 0; 1989 Oct 22 0 1;
    1990 Oct 1 0 1; 1991 Oct 6 0 1; 1992 Mar 1 0 0; 1992 Oct 5 0 1; 1993 Mar 31 0 0;
    1993-1995 Oct 1 0 1; 1994-1995 Feb lastSun 0 0; 1996 Mar 1 0 0; 1996-2001 Oct Sun>=1 0 1;
    1997 Feb lastSun 0 0; 1998-2001 Mar Sun>=1 0 0; 2002-2004 Apr Sun>=1 0 0;
    2002-2003 Sep Sun>=1 0 1; 2004-2009 Oct Sun>=15 0 1; 2005-2009 Mar Sun>=8 0 0;
    2010-2024 Oct Sun>=1 0 1; 2010-2012 Apr Sun>=8 0 0; 2013-2024 Mar Sun>=22 0 0.
  Peru = 1938 Jan 1 0 1; 1938 Apr 1 0 0; 1938-1939 Sep lastSun 0 1; 1939-1940 Mar Sun>=24 0 0;
    1986-1987 Jan 1 0 1; 1986-1987 Apr 1 0 0; 1990 Jan 1 0 1; 1990 Apr 1 0 0; 1994 Jan 1 0 1;
    1994 Apr 1 0 0.
  Uruguay = 1923-1925 Oct 1 0 0:30; 1924-1926 Apr 1 0 0; 1933-1938 Oct lastSun 0 0:30;
    1934-1941 Mar lastSat 24 0; 1939 Oct 1 0 0:30; 1940 Oct 27 0 0:30; 1941 Aug 1 0 0:30;
    1942 Dec 14 0 0:30; 1943 Mar 14 0 0; 1959 May 24 0 0:30; 1959 Nov 15 0 0; 1960 Jan 17 0 1;
    1960 Mar 6 0 0; 1965 Apr 4 0 1; 1965 Sep 26 0 0; 1968 May 27 0 0:30; 1968 Dec 1 0 0;
    1970 Apr 25 0 1; 1970 Jun 14 0 0; 1972 Apr 23 0 1; 1972 Jul 16 0 0; 1974 Jan 13 0 1:30;
    1974 Mar 10 0 0:30; 1974 Sep 1 0 0; 1974 Dec 22 0 1; 1975 Mar 30 0 0; 1976 Dec 19 0 1;
    1977 Mar 6 0 0; 1977 Dec 4 0 1; 1978-1979 Mar Sun>=1 0 0; 1978 Dec 17 0 1; 1979 Apr 29 0 1;
    1980 Mar 16 0 0; 1987 Dec 14 0 1; 1988 Feb 28 0 0; 1988 Dec 11 0 1; 1989 Mar 5 0 0;
    1989 Oct 29 0 1; 1990 Feb 25 0 0; 1990-1991 Oct Sun>=21 0 1; 1991-1992 Mar Sun>=1 0 0;
    1992 Oct 18 0 1; 1993 Feb 28 0 0; 2004 Sep 19 0 1; 2005 Mar 27 2 0; 2005 Oct 9 2 1;
    2006-2015 Mar Sun>=8 2 0; 2006-2014 Oct Sun>=1 2 1."

/-- The zones. -/
def southAmericaZones : String := "
  America/Araguaina = -3:12:48 - 1914; -3 Brazil 1990 Sep 17; -3 - 1995 Sep 14;
    -3 Brazil 2003 Sep 24; -3 - 2012 Oct 21; -3 Brazil 2013 Sep; -3 -.
  America/Argentina/Buenos_Aires = -3:53:48 - 1894 Oct 31; -4:16:48 - 1920 May; -4 - 1930 Dec;
    -4 Argentina 1969 Oct 5; -3 Argentina 1999 Oct 3; -4 Argentina 2000 Mar 3; -3 Argentina.
  America/Argentina/Catamarca = -4:23:8 - 1894 Oct 31; -4:16:48 - 1920 May; -4 - 1930 Dec;
    -4 Argentina 1969 Oct 5; -3 Argentina 1991 Mar 3; -4 - 1991 Oct 20; -3 Argentina 1999 Oct 3;
    -4 Argentina 2000 Mar 3; -3 - 2004 Jun; -4 - 2004 Jun 20; -3 Argentina 2008 Oct 18; -3 -.
  America/Argentina/Cordoba = -4:16:48 - 1894 Oct 31; -4:16:48 - 1920 May; -4 - 1930 Dec;
    -4 Argentina 1969 Oct 5; -3 Argentina 1991 Mar 3; -4 - 1991 Oct 20; -3 Argentina 1999 Oct 3;
    -4 Argentina 2000 Mar 3; -3 Argentina.
  America/Argentina/Jujuy = -4:21:12 - 1894 Oct 31; -4:16:48 - 1920 May; -4 - 1930 Dec;
    -4 Argentina 1969 Oct 5; -3 Argentina 1990 Mar 4; -4 - 1990 Oct 28; -4 1 1991 Mar 17;
    -4 - 1991 Oct 6; -3 1 1992; -3 Argentina 1999 Oct 3; -4 Argentina 2000 Mar 3;
    -3 Argentina 2008 Oct 18; -3 -.
  America/Argentina/La_Rioja = -4:27:24 - 1894 Oct 31; -4:16:48 - 1920 May; -4 - 1930 Dec;
    -4 Argentina 1969 Oct 5; -3 Argentina 1991 Mar; -4 - 1991 May 7; -3 Argentina 1999 Oct 3;
    -4 Argentina 2000 Mar 3; -3 - 2004 Jun; -4 - 2004 Jun 20; -3 Argentina 2008 Oct 18; -3 -.
  America/Argentina/Mendoza = -4:35:16 - 1894 Oct 31; -4:16:48 - 1920 May; -4 - 1930 Dec;
    -4 Argentina 1969 Oct 5; -3 Argentina 1990 Mar 4; -4 - 1990 Oct 15; -4 1 1991 Mar;
    -4 - 1991 Oct 15; -4 1 1992 Mar; -4 - 1992 Oct 18; -3 Argentina 1999 Oct 3;
    -4 Argentina 2000 Mar 3; -3 - 2004 May 23; -4 - 2004 Sep 26; -3 Argentina 2008 Oct 18; -3 -.
  America/Argentina/Rio_Gallegos = -4:36:52 - 1894 Oct 31; -4:16:48 - 1920 May; -4 - 1930 Dec;
    -4 Argentina 1969 Oct 5; -3 Argentina 1999 Oct 3; -4 Argentina 2000 Mar 3; -3 - 2004 Jun;
    -4 - 2004 Jun 20; -3 Argentina 2008 Oct 18; -3 -.
  America/Argentina/Salta = -4:21:40 - 1894 Oct 31; -4:16:48 - 1920 May; -4 - 1930 Dec;
    -4 Argentina 1969 Oct 5; -3 Argentina 1991 Mar 3; -4 - 1991 Oct 20; -3 Argentina 1999 Oct 3;
    -4 Argentina 2000 Mar 3; -3 Argentina 2008 Oct 18; -3 -.
  America/Argentina/San_Juan = -4:34:4 - 1894 Oct 31; -4:16:48 - 1920 May; -4 - 1930 Dec;
    -4 Argentina 1969 Oct 5; -3 Argentina 1991 Mar; -4 - 1991 May 7; -3 Argentina 1999 Oct 3;
    -4 Argentina 2000 Mar 3; -3 - 2004 May 31; -4 - 2004 Jul 25; -3 Argentina 2008 Oct 18; -3 -.
  America/Argentina/San_Luis = -4:25:24 - 1894 Oct 31; -4:16:48 - 1920 May; -4 - 1930 Dec;
    -4 Argentina 1969 Oct 5; -3 Argentina 1990; -3 1 1990 Mar 14; -4 - 1990 Oct 15; -4 1 1991 Mar;
    -4 - 1991 Jun; -3 - 1999 Oct 3; -4 1 2000 Mar 3; -3 - 2004 May 31; -4 - 2004 Jul 25;
    -3 Argentina 2008 Jan 21; -4 SanLuis 2009 Oct 11; -3 -.
  America/Argentina/Tucuman = -4:20:52 - 1894 Oct 31; -4:16:48 - 1920 May; -4 - 1930 Dec;
    -4 Argentina 1969 Oct 5; -3 Argentina 1991 Mar 3; -4 - 1991 Oct 20; -3 Argentina 1999 Oct 3;
    -4 Argentina 2000 Mar 3; -3 - 2004 Jun; -4 - 2004 Jun 13; -3 Argentina.
  America/Argentina/Ushuaia = -4:33:12 - 1894 Oct 31; -4:16:48 - 1920 May; -4 - 1930 Dec;
    -4 Argentina 1969 Oct 5; -3 Argentina 1999 Oct 3; -4 Argentina 2000 Mar 3; -3 - 2004 May 30;
    -4 - 2004 Jun 20; -3 Argentina 2008 Oct 18; -3 -.
  America/Asuncion = -3:50:40 - 1890; -3:50:40 - 1931 Oct 10; -4 - 1972 Oct; -3 - 1974 Apr;
    -4 Paraguay 2024 Oct 15; -3 -.
  America/Bahia = -2:34:4 - 1914; -3 Brazil 2003 Sep 24; -3 - 2011 Oct 16; -3 Brazil 2012 Oct 21;
    -3 -.
  America/Belem = -3:13:56 - 1914; -3 Brazil 1988 Sep 12; -3 -.
  America/Boa_Vista = -4:2:40 - 1914; -4 Brazil 1988 Sep 12; -4 - 1999 Sep 30;
    -4 Brazil 2000 Oct 15; -4 -.
  America/Bogota = -4:56:16 - 1884 Mar 13; -4:56:16 - 1914 Nov 23; -5 Colombia.
  America/Campo_Grande = -3:38:28 - 1914; -4 Brazil.
  America/Caracas = -4:27:44 - 1890; -4:27:40 - 1912 Feb 12; -4:30 - 1965; -4 - 2007 Dec 9 3;
    -4:30 - 2016 May 1 2:30; -4 -.
  America/Cayenne = -3:29:20 - 1911 Jul; -4 - 1967 Oct; -3 -.
  America/Coyhaique = -4:48:16 - 1890; -4:42:45 - 1910 Jan 10; -5 - 1916 Jul;
    -4:42:45 - 1918 Sep 10; -4 - 1919 Jul; -4:42:45 - 1927 Sep; -5 Chile 1932 Sep; -4 - 1942 Jun;
    -5 - 1942 Aug; -4 - 1946 Aug 28 24; -5 1 1947 Mar 31 24; -5 - 1947 May 21 23;
    -4 Chile 2025 Mar 20; -3 -.
  America/Cuiaba = -3:44:20 - 1914; -4 Brazil 2003 Sep 24; -4 - 2004 Oct; -4 Brazil.
  America/Eirunepe = -4:39:28 - 1914; -5 Brazil 1988 Sep 12; -5 - 1993 Sep 28;
    -5 Brazil 1994 Sep 22; -5 - 2008 Jun 24; -4 - 2013 Nov 10; -5 -.
  America/Fortaleza = -2:34 - 1914; -3 Brazil 1990 Sep 17; -3 - 1999 Sep 30;
    -3 Brazil 2000 Oct 22; -3 - 2001 Sep 13; -3 Brazil 2002 Oct; -3 -.
  America/Guayaquil = -5:19:20 - 1890; -5:14 - 1931; -5 Ecuador.
  America/Guyana = -3:52:39 - 1911 Aug; -4 - 1915 Mar; -3:45 - 1975 Aug; -3 - 1992 Mar 29 1; -4 -.
  America/La_Paz = -4:32:36 - 1890; -4:32:36 - 1931 Oct 15; -4:32:36 1 1932 Mar 21; -4 -.
  America/Lima = -5:8:12 - 1890; -5:8:36 - 1908 Jul 28; -5 Peru.
  America/Maceio = -2:22:52 - 1914; -3 Brazil 1990 Sep 17; -3 - 1995 Oct 13; -3 Brazil 1996 Sep 4;
    -3 - 1999 Sep 30; -3 Brazil 2000 Oct 22; -3 - 2001 Sep 13; -3 Brazil 2002 Oct; -3 -.
  America/Manaus = -4:0:4 - 1914; -4 Brazil 1988 Sep 12; -4 - 1993 Sep 28; -4 Brazil 1994 Sep 22;
    -4 -.
  America/Montevideo = -3:44:51 - 1908 Jun 10; -3:44:51 - 1920 May; -4 - 1923 Oct;
    -3:30 Uruguay 1942 Dec 14; -3 Uruguay 1960; -3 Uruguay 1968; -3 Uruguay 1970; -3 Uruguay 1974;
    -3 Uruguay 1974 Mar 10; -3 Uruguay 1974 Dec 22; -3 Uruguay.
  America/Noronha = -2:9:40 - 1914; -2 Brazil 1990 Sep 17; -2 - 1999 Sep 30;
    -2 Brazil 2000 Oct 15; -2 - 2001 Sep 13; -2 Brazil 2002 Oct; -2 -.
  America/Paramaribo = -3:40:40 - 1911; -3:40:52 - 1935; -3:40:36 - 1945 Oct; -3:30 - 1984 Oct;
    -3 -.
  America/Porto_Velho = -4:15:36 - 1914; -4 Brazil 1988 Sep 12; -4 -.
  America/Punta_Arenas = -4:43:40 - 1890; -4:42:45 - 1910 Jan 10; -5 - 1916 Jul;
    -4:42:45 - 1918 Sep 10; -4 - 1919 Jul; -4:42:45 - 1927 Sep; -5 Chile 1932 Sep; -4 - 1942 Jun;
    -5 - 1942 Aug; -4 - 1946 Aug 28 24; -5 1 1947 Mar 31 24; -5 - 1947 May 21 23;
    -4 Chile 2016 Dec 4; -3 -.
  America/Recife = -2:19:36 - 1914; -3 Brazil 1990 Sep 17; -3 - 1999 Sep 30;
    -3 Brazil 2000 Oct 15; -3 - 2001 Sep 13; -3 Brazil 2002 Oct; -3 -.
  America/Rio_Branco = -4:31:12 - 1914; -5 Brazil 1988 Sep 12; -5 - 2008 Jun 24; -4 - 2013 Nov 10;
    -5 -.
  America/Santarem = -3:38:48 - 1914; -4 Brazil 1988 Sep 12; -4 - 2008 Jun 24; -3 -.
  America/Santiago = -4:42:45 - 1890; -4:42:45 - 1910 Jan 10; -5 - 1916 Jul;
    -4:42:45 - 1918 Sep 10; -4 - 1919 Jul; -4:42:45 - 1927 Sep; -5 Chile 1932 Sep; -4 - 1942 Jun;
    -5 - 1942 Aug; -4 - 1946 Jul 14 24; -4 1 1946 Aug 28 24; -5 1 1947 Mar 31 24;
    -5 - 1947 May 21 23; -4 Chile.
  America/Sao_Paulo = -3:6:28 - 1914; -3 Brazil 1963 Oct 23; -3 1 1964; -3 Brazil."

end ZoneData

end TransitDwell
